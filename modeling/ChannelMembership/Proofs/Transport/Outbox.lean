import ChannelMembership.Proofs.Lookup
import ChannelMembership.Transport.Exchange

/-!
# Copies of a notice

No two open connections share their current outbox, however connections are opened, closed and
opened anew.  Hence handing a notice to several connections puts exactly one copy into the outbox of
each of them that can receive it, and touches no other outbox.
-/

namespace ChannelMembership

namespace Outboxes

theorem currentOf_close (outboxes : Outboxes) (connection other : Connection) :
    (outboxes.close connection).currentOf other =
      if other = connection then none else outboxes.currentOf other :=
  lookup_filter_ne outboxes.current connection other

theorem length_close (outboxes : Outboxes) (connection : Connection) :
    (outboxes.close connection).boxes.length = outboxes.boxes.length := by
  unfold close
  split <;> simp

theorem currentOf_open (outboxes : Outboxes) (connection other : Connection) :
    (outboxes.open connection).currentOf other =
      if other = connection then some outboxes.boxes.length else outboxes.currentOf other := by
  have closed := outboxes.currentOf_close connection other
  simp only [currentOf, Outboxes.open, lookup_cons_eq, length_close] at closed ⊢
  split
  · rfl
  · rename_i apart
    rw [closed, if_neg apart]

theorem length_open (outboxes : Outboxes) (connection : Connection) :
    (outboxes.open connection).boxes.length = outboxes.boxes.length + 1 := by
  simp [Outboxes.open, length_close]

/-- An outbox that a notice would reach is the current one of the connection. -/
theorem currentOf_of_reachable {outboxes : Outboxes} {connection : Connection} {position : Nat}
    (reaches : outboxes.reachable connection = some position) :
    outboxes.currentOf connection = some position := by
  unfold reachable at reaches
  split at reaches
  · cases reaches
  · rename_i current
    split at reaches
    · cases reaches
      exact current
    · cases reaches

/-- Every open connection has an outbox, and no two have the same. -/
structure Separate (outboxes : Outboxes) : Prop where
  /-- The current outbox of a connection exists. -/
  inside : ∀ connection position, outboxes.currentOf connection = some position →
    position < outboxes.boxes.length
  /-- Current outboxes of different connections differ. -/
  apart : ∀ connection other position, outboxes.currentOf connection = some position →
    outboxes.currentOf other = some position → other = connection

namespace Separate

variable {outboxes after : Outboxes}

theorem empty : Outboxes.empty.Separate where
  inside := nofun
  apart := nofun

theorem of_current_eq (separate : outboxes.Separate) (current : after.current = outboxes.current)
    (length : after.boxes.length = outboxes.boxes.length) : after.Separate where
  inside := by
    intro connection position found
    rw [currentOf, current] at found
    rw [length]
    exact separate.inside connection position found
  apart := by
    intro connection other position found found'
    rw [currentOf, current] at found found'
    exact separate.apart connection other position found found'

theorem close (separate : outboxes.Separate) (connection : Connection) :
    (outboxes.close connection).Separate where
  inside := by
    intro other position found
    rw [currentOf_close] at found
    rw [length_close]
    split at found
    · cases found
    · exact separate.inside other position found
  apart := by
    intro one other position found found'
    rw [currentOf_close] at found found'
    split at found
    · cases found
    · split at found'
      · cases found'
      · exact separate.apart one other position found found'

/-- A fresh outbox lies behind all earlier ones. -/
theorem «open» (separate : outboxes.Separate) (connection : Connection) :
    (outboxes.open connection).Separate where
  inside := by
    intro other position found
    rw [currentOf_open] at found
    rw [length_open]
    split at found
    · cases found
      exact Nat.lt_succ_self _
    · exact Nat.lt_succ_of_lt (separate.inside other position found)
  apart := by
    intro one other position found found'
    rw [currentOf_open] at found found'
    split at found
    · cases found
      split at found'
      · simp_all
      · exact absurd (separate.inside other _ found') (Nat.lt_irrefl _)
    · split at found'
      · cases found'
        exact absurd (separate.inside one _ found) (Nat.lt_irrefl _)
      · exact separate.apart one other position found found'

theorem take (separate : outboxes.Separate) (position : Nat) :
    (outboxes.take position).1.Separate := by
  unfold Outboxes.take
  split
  · exact separate
  · split
    · exact separate.of_current_eq rfl (by simp)
    · exact separate

theorem drop (separate : outboxes.Separate) (position : Nat) :
    (outboxes.drop position).Separate :=
  separate.of_current_eq rfl (by simp [Outboxes.drop])

end Separate

theorem current_deliver (outboxes : Outboxes) (connection : Connection) (notice : Notice) :
    (outboxes.deliver connection notice).1.current = outboxes.current := by
  unfold deliver
  split <;> rfl

/-- Only the outbox that the notice reaches gets a copy. -/
theorem getElem?_deliver (outboxes : Outboxes) (connection : Connection) (notice : Notice)
    (position : Nat) :
    (outboxes.deliver connection notice).1.boxes[position]? =
      if outboxes.reachable connection = some position then
        (outboxes.boxes[position]?).map (·.push notice)
      else outboxes.boxes[position]? := by
  unfold deliver
  cases outboxes.reachable connection with
  | none => simp
  | some reached =>
      by_cases same : reached = position <;> simp [same]

theorem length_deliver (outboxes : Outboxes) (connection : Connection) (notice : Notice) :
    (outboxes.deliver connection notice).1.boxes.length = outboxes.boxes.length := by
  unfold deliver
  split <;> simp

/-- A copy in an outbox changes nothing about who can receive. -/
theorem reachable_deliver (outboxes : Outboxes) (connection other : Connection)
    (notice : Notice) :
    (outboxes.deliver connection notice).1.reachable other = outboxes.reachable other := by
  have received (position : Nat) :
      ((outboxes.deliver connection notice).1.boxes[position]?).any Outbox.received =
        (outboxes.boxes[position]?).any Outbox.received := by
    rw [getElem?_deliver]
    split
    · cases outboxes.boxes[position]? <;> rfl
    · rfl
  simp only [reachable, currentOf, current_deliver, received]

theorem Separate.deliver {outboxes : Outboxes} (separate : outboxes.Separate)
    (connection : Connection) (notice : Notice) :
    (outboxes.deliver connection notice).1.Separate :=
  separate.of_current_eq (outboxes.current_deliver connection notice)
    (outboxes.length_deliver connection notice)

theorem Separate.deliverAll {outboxes : Outboxes} (separate : outboxes.Separate) (notice : Notice)
    (receivers : List Connection) : (Exchange.deliverAll outboxes notice receivers).Separate := by
  induction receivers generalizing outboxes with
  | nil => exact separate
  | cons connection rest induction => exact induction (separate.deliver connection notice)

theorem getElem?_close (outboxes : Outboxes) (connection : Connection) (position : Nat) :
    (outboxes.close connection).boxes[position]? =
      if outboxes.currentOf connection = some position then
        (outboxes.boxes[position]?).map fun outbox => { outbox with attached := false }
      else outboxes.boxes[position]? := by
  unfold close
  cases outboxes.currentOf connection with
  | none => simp
  | some current => by_cases same : current = position <;> simp [same]

/-- Outboxes that exist are not affected by the fresh one. -/
theorem getElem?_open (outboxes : Outboxes) (connection : Connection) {position : Nat}
    (inside : position < outboxes.boxes.length) :
    (outboxes.open connection).boxes[position]? =
      (outboxes.close connection).boxes[position]? := by
  have inside' : position < (outboxes.close connection).boxes.length := by
    rwa [length_close]
  exact List.getElem?_append_left inside'

theorem getElem?_take (outboxes : Outboxes) (other position : Nat) :
    (outboxes.take other).1.boxes[position]? =
      if other = position then
        (outboxes.boxes[position]?).map fun outbox =>
          { outbox with queued := outbox.queued.drop 1 }
      else outboxes.boxes[position]? := by
  by_cases same : other = position
  · subst same
    rw [if_pos rfl, take]
    cases found : outboxes.boxes[other]? with
    | none => simpa using found
    | some outbox =>
        have inside := (List.getElem?_eq_some_iff.1 found).1
        obtain ⟨queued, attached, received⟩ := outbox
        cases queued with
        | nil => simpa using found
        | cons notice rest => simp [inside]
  · rw [if_neg same, take]
    split
    · rfl
    · split
      · exact List.getElem?_set_ne same
      · rfl

theorem getElem?_drop (outboxes : Outboxes) (other position : Nat) :
    (outboxes.drop other).boxes[position]? =
      if other = position then
        (outboxes.boxes[position]?).map fun outbox =>
          { outbox with queued := [], received := false }
      else outboxes.boxes[position]? := by
  by_cases same : other = position <;> simp [drop, same]

theorem current_take (outboxes : Outboxes) (position : Nat) :
    (outboxes.take position).1.current = outboxes.current := by
  unfold take
  split
  · rfl
  · split <;> rfl

theorem length_take (outboxes : Outboxes) (position : Nat) :
    (outboxes.take position).1.boxes.length = outboxes.boxes.length := by
  unfold take
  split
  · rfl
  · split
    · exact List.length_set
    · rfl

theorem length_deliverAll (outboxes : Outboxes) (notice : Notice) (receivers : List Connection) :
    (Exchange.deliverAll outboxes notice receivers).boxes.length = outboxes.boxes.length := by
  induction receivers generalizing outboxes with
  | nil => rfl
  | cons first rest induction =>
      exact (induction _).trans (outboxes.length_deliver first notice)

theorem current_deliverAll (outboxes : Outboxes) (notice : Notice)
    (receivers : List Connection) :
    (Exchange.deliverAll outboxes notice receivers).current = outboxes.current := by
  induction receivers generalizing outboxes with
  | nil => rfl
  | cons first rest induction =>
      exact (induction _).trans (outboxes.current_deliver first notice)

/-- What is found in an outbox. -/
theorem take_snd {outboxes : Outboxes} {position : Nat} {outbox : Outbox}
    (found : outboxes.boxes[position]? = some outbox) :
    (outboxes.take position).2 =
      match outbox.queued with
      | notice :: _ => .notice notice
      | [] => if outbox.attached then .empty else .disconnected := by
  obtain ⟨queued, attached, received⟩ := outbox
  rw [take, found]
  cases queued <;> rfl

/-- One copy of a notice has been put into the outbox of every receiver that can be reached, and
nothing else has changed. -/
structure HandedOut (notice : Notice) (receivers : List Connection) (before after : Outboxes) :
    Prop where
  /-- The same connections are open. -/
  current : after.current = before.current
  /-- The outbox of a receiver has got one copy. -/
  copied : ∀ connection ∈ receivers, ∀ position, before.reachable connection = some position →
    after.boxes[position]? = (before.boxes[position]?).map (·.push notice)
  /-- Every other outbox is as it was. -/
  spared : ∀ position, (∀ connection ∈ receivers, before.reachable connection ≠ some position) →
    after.boxes[position]? = before.boxes[position]?

/-- A notice that is handed to different connections is handed out. -/
theorem Separate.handedOut {outboxes : Outboxes} (separate : outboxes.Separate) (notice : Notice)
    {receivers : List Connection} (distinct : receivers.Nodup) :
    HandedOut notice receivers outboxes (Exchange.deliverAll outboxes notice receivers) := by
  induction receivers generalizing outboxes with
  | nil => exact ⟨rfl, nofun, fun _ _ => rfl⟩
  | cons first rest induction =>
      obtain ⟨fresh, distinct⟩ := List.nodup_cons.1 distinct
      obtain ⟨current, copied, spared⟩ := induction (separate.deliver first notice) distinct
      simp only [reachable_deliver, getElem?_deliver] at copied spared
      -- the first receiver shares its outbox with none of the rest
      have alone {connection : Connection} (later : connection ∈ rest) {position : Nat}
          (reaches : outboxes.reachable connection = some position) :
          outboxes.reachable first ≠ some position := by
        intro shared
        have same := separate.apart first connection position (currentOf_of_reachable shared)
          (currentOf_of_reachable reaches)
        exact fresh (same ▸ later)
      refine ⟨current.trans (outboxes.current_deliver first notice), ?_, ?_⟩
      · intro connection member position reaches
        rcases List.mem_cons.1 member with rfl | later
        · have after := spared position fun other later shared => alone later shared reaches
          rwa [if_pos reaches] at after
        · have after := copied connection later position reaches
          rwa [if_neg (alone later reaches)] at after
      · intro position unreached
        have after := spared position fun other later =>
          unreached other (List.mem_cons_of_mem first later)
        rwa [if_neg (unreached first List.mem_cons_self)] at after

end Outboxes

/-- No call lets two connections share an outbox. -/
theorem Exchange.separate_accept {exchange : Exchange} (separate : exchange.outboxes.Separate)
    (call : Call) : (exchange.accept call).1.outboxes.Separate := by
  cases call with
  | join connection channel => exact separate
  | leave connection channel => exact separate
  | publish channel notice => exact separate.deliverAll notice _
  | send connection notice => exact separate.deliver connection notice

/-- A call neither opens nor closes a connection. -/
theorem Exchange.current_accept (exchange : Exchange) (call : Call) :
    (exchange.accept call).1.outboxes.current = exchange.outboxes.current := by
  cases call with
  | join connection channel => rfl
  | leave connection channel => rfl
  | send connection notice => exact Outboxes.current_deliver _ _ _
  | publish channel notice => exact Outboxes.current_deliverAll _ _ _

end ChannelMembership
