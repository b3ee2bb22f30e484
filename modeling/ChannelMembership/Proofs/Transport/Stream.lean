import ChannelMembership.Proofs.Transport.Dealing

/-!
# What is received

The stream of a connection is what was sent to it, and what was published while it was a member,
from one opening to the next opening or closing.  Whoever holds the receiving end of an outbox gets
the notices of the stream that began with it, in order and each once, whatever else happens to the
exchange meanwhile.
-/

namespace ChannelMembership

namespace Occasion

/-- The notice that the dealing addresses to a connection, if it does. -/
def addressed? (connection : Connection) (occasion : Occasion) : Option Notice :=
  match occasion.dealing with
  | .request (.send receiver notice) => if receiver = connection then some notice else none
  | .request (.publish channel notice) =>
    if occasion.exchange.groups.isMember channel connection then some notice else none
  | _ => none

/-- The notice that is taken out of an outbox, if there is one. -/
def obtained? (position : Nat) (occasion : Occasion) : Option Notice :=
  match occasion.dealing, occasion.answer with
  | .take other, .received (.notice notice) => if other = position then some notice else none
  | _, _ => none

end Occasion

/-- The notices addressed to a connection until it gets another outbox, or none any more. -/
def stream (connection : Connection) (occasions : List Occasion) : List Notice :=
  (occasions.takeWhile fun occasion => !occasion.dealing.renews connection).filterMap
    (Occasion.addressed? connection)

/-- The notices taken out of an outbox. -/
def obtained (position : Nat) (occasions : List Occasion) : List Notice :=
  occasions.filterMap (Occasion.obtained? position)

theorem stream_cons (connection : Connection) (occasion : Occasion) (rest : List Occasion) :
    stream connection (occasion :: rest) =
      if occasion.dealing.renews connection = true then []
      else (occasion.addressed? connection).toList ++ stream connection rest := by
  cases renewed : occasion.dealing.renews connection with
  | true => simp [stream, renewed]
  | false =>
      cases addressed : occasion.addressed? connection <;> simp [stream, renewed, addressed]

theorem obtained_cons (position : Nat) (occasion : Occasion) (rest : List Occasion) :
    obtained position (occasion :: rest) =
      (occasion.obtained? position).toList ++ obtained position rest := by
  cases taken : occasion.obtained? position <;> simp [obtained, taken]

theorem obtained_append (position : Nat) (before after : List Occasion) :
    obtained position (before ++ after) = obtained position before ++ obtained position after :=
  List.filterMap_append

namespace Outbox

/-- An outbox after an occasion, as far as its connection is concerned. -/
def after (outbox : Outbox) (connection : Connection) (position : Nat) (occasion : Occasion) :
    Outbox where
  queued :=
    if occasion.dealing = .drop position then []
    else if occasion.dealing = .take position then outbox.queued.drop 1
    else if outbox.attached && outbox.received then
      outbox.queued ++ (occasion.addressed? connection).toList
    else outbox.queued
  attached := outbox.attached && !occasion.dealing.renews connection
  received := outbox.received && occasion.dealing ≠ .drop position

/-- A call puts the notice that is addressed to the connection into the outbox, if it can be
received. -/
theorem after_request (outbox : Outbox) (connection : Connection) (position : Nat)
    (exchange : Exchange) (call : Call) :
    outbox.after connection position ⟨exchange, .request call⟩ =
      if (outbox.attached && outbox.received) = true then
        (Occasion.addressed? connection ⟨exchange, .request call⟩).elim outbox outbox.push
      else outbox := by
  cases heard : outbox.attached && outbox.received with
  | false => simp [after, heard, Dealing.renews]
  | true =>
      cases addressed : Occasion.addressed? connection ⟨exchange, .request call⟩ <;>
        simp [after, heard, Dealing.renews, addressed, push]

/-- As long as the receiving end exists, what was queued and what is added to the stream is either
obtained or queued afterwards. -/
theorem queued_after {outbox : Outbox} {position : Nat} {dealing : Dealing}
    (received : outbox.received = true) (kept : dealing ≠ .drop position)
    (connection : Connection) (exchange : Exchange) (rest : List Occasion) :
    (if dealing = .take position then outbox.queued.head?.toList else []) ++
        ((outbox.after connection position ⟨exchange, dealing⟩).queued ++
          if (outbox.after connection position ⟨exchange, dealing⟩).attached = true then
            stream connection rest else []) =
      outbox.queued ++
        if outbox.attached = true then stream connection (⟨exchange, dealing⟩ :: rest)
        else [] := by
  obtain ⟨queued, attached, _⟩ := outbox
  cases received
  rw [stream_cons]
  by_cases took : dealing = .take position
  · subst took
    cases queued <;> simp [after, Dealing.renews, Occasion.addressed?]
  · cases attached with
    | false => simp [after, kept, took]
    | true =>
        cases renewed : dealing.renews connection with
        | false => simp [after, kept, took, renewed]
        | true =>
            have silent : Occasion.addressed? connection ⟨exchange, dealing⟩ = none := by
              cases dealing <;> first | rfl | cases renewed
            simp [after, kept, took, renewed, silent]

end Outbox

namespace Exchange

/-- An outbox belongs to a connection: it is attached as long as it is the current one of the
connection, and no other connection uses it. -/
structure Keeps (exchange : Exchange) (connection : Connection) (position : Nat)
    (outbox : Outbox) : Prop where
  /-- It is found at its position. -/
  found : exchange.outboxes.boxes[position]? = some outbox
  /-- It is attached exactly if it is the current one of the connection. -/
  current_iff : exchange.outboxes.currentOf connection = some position ↔ outbox.attached = true
  /-- No other connection uses it. -/
  foreign : ∀ other, exchange.outboxes.currentOf other = some position → other = connection
  /-- Nothing is queued for a receiving end that was dropped. -/
  silent : outbox.received = false → outbox.queued = []

namespace Keeps

variable {exchange : Exchange} {connection : Connection} {position : Nat} {outbox : Outbox}

theorem inside (keeps : exchange.Keeps connection position outbox) :
    position < exchange.outboxes.boxes.length :=
  (List.getElem?_eq_some_iff.1 keeps.found).1

/-- A notice reaches the outbox if it is for the connection and the receiving end still exists. -/
theorem reachable_iff (keeps : exchange.Keeps connection position outbox) (other : Connection) :
    exchange.outboxes.reachable other = some position ↔
      other = connection ∧ (outbox.attached && outbox.received) = true := by
  rw [Bool.and_eq_true, ← keeps.current_iff]
  constructor
  · intro reaches
    have current := Outboxes.currentOf_of_reachable reaches
    obtain rfl := keeps.foreign other current
    refine ⟨rfl, current, ?_⟩
    simp only [Outboxes.reachable, current, keeps.found, Option.any_some] at reaches
    by_contra gone
    rw [if_neg gone] at reaches
    cases reaches
  · rintro ⟨rfl, current, received⟩
    simp [Outboxes.reachable, current, keeps.found, received]

/-- Nothing that the outbox depends on has changed, apart from its queue. -/
theorem of_current_eq (keeps : exchange.Keeps connection position outbox) {later : Exchange}
    {outbox' : Outbox} (found : later.outboxes.boxes[position]? = some outbox')
    (current : later.outboxes.current = exchange.outboxes.current)
    (attached : outbox'.attached = outbox.attached)
    (silent : outbox'.received = false → outbox'.queued = []) :
    later.Keeps connection position outbox' where
  found := found
  current_iff := by
    rw [Outboxes.currentOf, current, attached]
    exact keeps.current_iff
  foreign := by
    intro other found
    rw [Outboxes.currentOf, current] at found
    exact keeps.foreign other found
  silent := silent

/-- What becomes of the outbox when some connection is closed. -/
theorem close (keeps : exchange.Keeps connection position outbox) (other : Connection) :
    (exchange.close other).Keeps connection position
      { outbox with attached := outbox.attached && !decide (other = connection) } where
  found := by
    simp only [Exchange.close, Outboxes.getElem?_close, keeps.found, Option.map_some]
    by_cases mine : other = connection
    · subst mine
      obtain ⟨queued, attached, received⟩ := outbox
      have current := keeps.current_iff
      cases attached <;> simp_all
    · have apart : exchange.outboxes.currentOf other ≠ some position :=
        fun current => mine (keeps.foreign other current)
      simp [mine, apart]
  current_iff := by
    simp only [Exchange.close, Outboxes.currentOf_close, Bool.and_eq_true, ← keeps.current_iff]
    by_cases mine : other = connection
    · simp [mine]
    · simp [mine, Ne.symm mine]
  foreign := by
    intro another current
    simp only [Exchange.close, Outboxes.currentOf_close] at current
    split at current
    · cases current
    · exact keeps.foreign another current
  silent := keeps.silent

/-- Opening a connection does to the outbox what closing it would do. -/
theorem «open» (keeps : exchange.Keeps connection position outbox) (other : Connection) :
    (exchange.open other).Keeps connection position
      { outbox with attached := outbox.attached && !decide (other = connection) } where
  found := by
    simp only [Exchange.open, Outboxes.getElem?_open _ _ keeps.inside]
    exact (keeps.close other).found
  current_iff := by
    rw [← (keeps.close other).current_iff]
    simp only [Exchange.open, Exchange.close, Outboxes.currentOf_open, Outboxes.currentOf_close]
    by_cases mine : connection = other
    · simp [mine, Nat.ne_of_gt keeps.inside]
    · simp [mine]
  foreign := by
    intro another current
    simp only [Exchange.open, Outboxes.currentOf_open] at current
    split at current
    · cases current
      exact absurd keeps.inside (Nat.lt_irrefl _)
    · exact keeps.foreign another current
  silent := keeps.silent

/-- What is found after a call: the notice that is addressed to the connection has been put into the
outbox if it can be received. -/
theorem getElem?_accept (keeps : exchange.Keeps connection position outbox)
    (separate : exchange.outboxes.Separate) (call : Call) :
    (exchange.accept call).1.outboxes.boxes[position]? = some
      (if (outbox.attached && outbox.received) = true then
        (Occasion.addressed? connection ⟨exchange, .request call⟩).elim outbox outbox.push
      else outbox) := by
  cases call with
  | join other channel =>
      simp only [Occasion.addressed?, Option.elim_none, ite_self]
      exact keeps.found
  | leave other channel =>
      simp only [Occasion.addressed?, Option.elim_none, ite_self]
      exact keeps.found
  | send other notice =>
      simp only [Exchange.accept, carryOut, Outboxes.getElem?_deliver, keeps.reachable_iff,
        keeps.found, Occasion.addressed?]
      cases outbox.attached && outbox.received <;> by_cases mine : other = connection <;>
        simp [mine]
  | publish channel notice =>
      have handed : Outboxes.HandedOut notice (exchange.groups.members channel)
          exchange.outboxes (exchange.accept (.publish channel notice)).1.outboxes :=
        separate.handedOut notice (nodup_sortedSet _)
      by_cases heard : (outbox.attached && outbox.received) = true
      · by_cases member : exchange.groups.isMember channel connection = true
        · have copied := handed.copied connection ((Groups.mem_members _ _ _).2 member) position
            ((keeps.reachable_iff connection).2 ⟨rfl, heard⟩)
          rw [copied, keeps.found, if_pos heard]
          simp [Occasion.addressed?, member]
        · have spared := handed.spared position fun other among reached => by
            obtain ⟨rfl, -⟩ := (keeps.reachable_iff other).1 reached
            exact member ((Groups.mem_members _ _ _).1 among)
          rw [spared, keeps.found, if_pos heard]
          simp [Occasion.addressed?, member]
      · have spared := handed.spared position fun other _ reached =>
          heard ((keeps.reachable_iff other).1 reached).2
        rw [spared, keeps.found, if_neg heard]

theorem accept (keeps : exchange.Keeps connection position outbox)
    (separate : exchange.outboxes.Separate) (call : Call) :
    (exchange.accept call).1.Keeps connection position
      (outbox.after connection position ⟨exchange, .request call⟩) := by
  have found := keeps.getElem?_accept separate call
  rw [← Outbox.after_request] at found
  refine keeps.of_current_eq found (exchange.current_accept call)
    (by simp [Outbox.after, Dealing.renews]) fun gone => ?_
  have received : outbox.received = false := by simpa [Outbox.after] using gone
  simp [Outbox.after, received, keeps.silent received]

/-- Whatever is done with the exchange, the outbox stays with its connection. -/
theorem perform (keeps : exchange.Keeps connection position outbox)
    (separate : exchange.outboxes.Separate) (dealing : Dealing) :
    (dealing.perform exchange).1.Keeps connection position
      (outbox.after connection position ⟨exchange, dealing⟩) := by
  cases dealing with
  | «open» other =>
      have opened := keeps.open other
      simpa [Dealing.perform, Outbox.after, Occasion.addressed?, Dealing.renews] using opened
  | close other =>
      have closed := keeps.close other
      simpa [Dealing.perform, Outbox.after, Occasion.addressed?, Dealing.renews] using closed
  | request call => exact keeps.accept separate call
  | take other =>
      refine keeps.of_current_eq ?_ (Outboxes.current_take _ _)
        (by simp [Outbox.after, Dealing.renews]) fun gone => ?_
      · simp only [Dealing.perform, Outboxes.getElem?_take, keeps.found]
        by_cases here : other = position <;>
          simp [here, Outbox.after, Occasion.addressed?, Dealing.renews]
      · have received : outbox.received = false := by simpa [Outbox.after] using gone
        simp [Outbox.after, received, keeps.silent received]
  | drop other =>
      refine keeps.of_current_eq ?_ rfl (by simp [Outbox.after, Dealing.renews]) fun gone => ?_
      · simp only [Dealing.perform, Outboxes.getElem?_drop, keeps.found]
        by_cases here : other = position <;>
          simp [here, Outbox.after, Occasion.addressed?, Dealing.renews]
      · by_cases here : other = position
        · simp [Outbox.after, here]
        · have received : outbox.received = false := by simpa [Outbox.after, here] using gone
          simp [Outbox.after, received, keeps.silent received]
  | clear =>
      have same : outbox.after connection position ⟨exchange, .clear⟩ = outbox := by
        simp [Outbox.after, Occasion.addressed?, Dealing.renews]
      rw [same]
      exact keeps.of_current_eq keeps.found rfl rfl keeps.silent

/-- What is taken out of the outbox is what was queued there first. -/
theorem obtained?_eq (keeps : exchange.Keeps connection position outbox) (dealing : Dealing) :
    (Occasion.obtained? position ⟨exchange, dealing⟩).toList =
      if dealing = .take position then outbox.queued.head?.toList else [] := by
  by_cases took : dealing = .take position
  · subst took
    have found := Outboxes.take_snd keeps.found
    simp only [Occasion.obtained?, Occasion.answer, Dealing.perform, found]
    cases outbox.queued with
    | nil => cases outbox.attached <;> rfl
    | cons notice rest => simp
  · rw [if_neg took]
    cases dealing with
    | take other =>
        have apart : other ≠ position := fun same => took (same ▸ rfl)
        simp only [Occasion.obtained?, Occasion.answer, Dealing.perform]
        split
        · rename_i other' notice same answered
          cases same
          rw [if_neg apart]
          rfl
        · rfl
    | _ => rfl

/-- Nothing is obtained once the receiving end was dropped. -/
theorem obtained_of_dropped (keeps : exchange.Keeps connection position outbox)
    (separate : exchange.outboxes.Separate) (gone : outbox.received = false)
    (later : List Dealing) :
    obtained position (exchange.occasions later) = [] ∧
      ∃ outbox', (exchange.deal later).Keeps connection position outbox' ∧
        outbox'.received = false := by
  induction later generalizing exchange outbox with
  | nil => exact ⟨rfl, outbox, keeps, gone⟩
  | cons dealing rest induction =>
      obtain ⟨nothing, stays⟩ := induction (keeps.perform separate dealing)
        (separate_perform separate dealing) (by simp [Outbox.after, gone])
      refine ⟨?_, stays⟩
      rw [occasions_cons, obtained_cons, keeps.obtained?_eq, keeps.silent gone, nothing]
      simp

/-- What the outbox is like after some dealings, and what was obtained from it meanwhile. -/
theorem deal (keeps : exchange.Keeps connection position outbox)
    (separate : exchange.outboxes.Separate) (received : outbox.received = true)
    (later : List Dealing) (kept : .drop position ∉ later) :
    ∃ outbox', (exchange.deal later).Keeps connection position outbox' ∧
      outbox'.received = true ∧
      outbox'.attached = (outbox.attached && !later.any (Dealing.renews connection)) ∧
      obtained position (exchange.occasions later) ++ outbox'.queued =
        outbox.queued ++
          if outbox.attached = true then stream connection (exchange.occasions later) else [] := by
  induction later generalizing exchange outbox with
  | nil => exact ⟨outbox, keeps, received, by simp, by simp [obtained, stream]⟩
  | cons dealing rest induction =>
      obtain ⟨first, kept⟩ := not_or.1 fun found => kept (List.mem_cons.2 found)
      obtain ⟨outbox', keeps', received', attached', balance⟩ :=
        induction (keeps.perform separate dealing) (separate_perform separate dealing)
          (by simp [Outbox.after, received, Ne.symm first]) kept
      refine ⟨outbox', keeps', received', ?_, ?_⟩
      · rw [attached', List.any_cons, Bool.not_or]
        simp only [Outbox.after, Bool.and_assoc]
      · rw [occasions_cons, obtained_cons, keeps.obtained?_eq, List.append_assoc, balance]
        exact Outbox.queued_after received (Ne.symm first) connection exchange _

/-- What is obtained comes first among what was queued and what is added to the stream. -/
theorem obtained_prefix (keeps : exchange.Keeps connection position outbox)
    (separate : exchange.outboxes.Separate) (later : List Dealing) :
    obtained position (exchange.occasions later) <+: outbox.queued ++
      if outbox.attached = true then stream connection (exchange.occasions later) else [] := by
  induction later generalizing exchange outbox with
  | nil => exact List.nil_prefix
  | cons dealing rest induction =>
      have keeps' := keeps.perform separate dealing
      have separate' := separate_perform separate dealing
      by_cases received : outbox.received = true
      · by_cases gone : dealing = .drop position
        · have nothing := (keeps'.obtained_of_dropped separate' (by simp [Outbox.after, gone])
            rest).1
          rw [occasions_cons, obtained_cons, keeps.obtained?_eq, nothing, gone]
          exact List.nil_prefix
        · rw [occasions_cons, obtained_cons, keeps.obtained?_eq,
            ← Outbox.queued_after received gone connection exchange]
          exact (List.prefix_append_right_inj _).2 (induction keeps' separate')
      · rw [(keeps.obtained_of_dropped separate (Bool.eq_false_iff.2 received) _).1]
        exact List.nil_prefix

/-- Nothing is queued for a receiving end that is dropped. -/
theorem deal_of_dropped (keeps : exchange.Keeps connection position outbox)
    (separate : exchange.outboxes.Separate) {later : List Dealing}
    (dropped : .drop position ∈ later) :
    ∃ outbox', (exchange.deal later).Keeps connection position outbox' ∧
      outbox'.received = false := by
  induction later generalizing exchange outbox with
  | nil => cases dropped
  | cons dealing rest induction =>
      have keeps' := keeps.perform separate dealing
      have separate' := separate_perform separate dealing
      rcases List.mem_cons.1 dropped with rfl | later
      · exact (keeps'.obtained_of_dropped separate' (by simp [Outbox.after]) rest).2
      · exact induction keeps' separate' later

/-- The outbox of a connection that was just opened. -/
theorem fresh (separate : exchange.outboxes.Separate) (connection : Connection) :
    (exchange.open connection).Keeps connection exchange.outboxes.boxes.length Outbox.fresh where
  found := by
    simp [Exchange.open, Outboxes.open, ← Outboxes.length_close exchange.outboxes connection]
  current_iff := by
    simp [Exchange.open, Outboxes.currentOf_open, Outbox.fresh]
  foreign := by
    intro other current
    simp only [Exchange.open, Outboxes.currentOf_open] at current
    split at current
    · assumption
    · exact absurd (separate.inside other _ current) (Nat.lt_irrefl _)
  silent := nofun

/-- Taking a number of times yields as many notices, if so many are queued. -/
theorem obtained_replicate (keeps : exchange.Keeps connection position outbox)
    (separate : exchange.outboxes.Separate) (times : Nat) :
    obtained position (exchange.occasions (List.replicate times (.take position))) =
      outbox.queued.take times := by
  induction times generalizing exchange outbox with
  | zero => rfl
  | succ times induction =>
      have rest := induction (keeps.perform separate (.take position))
        (separate_perform separate (.take position))
      rw [List.replicate_succ, occasions_cons, obtained_cons, keeps.obtained?_eq, rest]
      cases queued : outbox.queued <;> simp [Outbox.after, queued]

end Keeps

end Exchange

/-- What the holder of a receiving end gets from the dealings that follow the opening of its
connection. -/
structure Receives (connection : Connection) (position : Nat) (opened : Exchange)
    (later : List Dealing) : Prop where
  /-- What was obtained is the beginning of the stream. -/
  begins : obtained position (opened.occasions later) <+:
    stream connection (opened.occasions later)
  /-- Unless the receiving end was dropped, the next notice of the stream is found next.  If there
  is none, nothing is found; and the outbox is disconnected if the connection was closed or opened
  anew meanwhile. -/
  found : .drop position ∉ later →
    ((Dealing.take position).perform (opened.deal later)).2 = .received
      (match (stream connection (opened.occasions later)).drop
          (obtained position (opened.occasions later)).length with
        | notice :: _ => .notice notice
        | [] => if later.any (Dealing.renews connection) then .disconnected else .empty)
  /-- Whoever takes until nothing is found has obtained the whole stream. -/
  drained : .drop position ∉ later →
    (∀ notice, ((Dealing.take position).perform (opened.deal later)).2 ≠
      .received (.notice notice)) →
    obtained position (opened.occasions later) = stream connection (opened.occasions later)
  /-- Whoever takes often enough obtains the whole stream. -/
  exhausted : .drop position ∉ later →
    obtained position (opened.occasions (later ++
        List.replicate (stream connection (opened.occasions later)).length (.take position))) =
      stream connection (opened.occasions later)
  /-- With a receiving end that was dropped no notice is found any more. -/
  dropped : .drop position ∈ later → ∀ notice,
    ((Dealing.take position).perform (opened.deal later)).2 ≠ .received (.notice notice)

/-- Somebody listens at a connection: it was opened and neither closed nor opened anew since, and
the receiving end still exists. -/
def Listens (connection : Connection) (dealings : List Dealing) : Prop :=
  ∃ before after position, dealings = before ++ .open connection :: after ∧
    ((Dealing.open connection).perform (Exchange.empty.deal before)).2 = .opened position ∧
    after.any (Dealing.renews connection) = false ∧ .drop position ∉ after

/-- What becomes of a notice that is sent to a connection. -/
structure Sends (connection : Connection) (notice : Notice) (dealings : List Dealing) : Prop where
  /-- It is turned away exactly if nobody listens. -/
  refused_iff : ((Dealing.request (.send connection notice)).perform
      (Exchange.empty.deal dealings)).2 = .delivered (.error (.notOpen connection)) ↔
    ¬Listens connection dealings
  /-- Otherwise it is accepted. -/
  accepted : Listens connection dealings → ((Dealing.request (.send connection notice)).perform
    (Exchange.empty.deal dealings)).2 = .delivered (.ok ())
  /-- A notice that is turned away is queued nowhere. -/
  lost : ¬Listens connection dealings → ((Dealing.request (.send connection notice)).perform
    (Exchange.empty.deal dealings)).1.outboxes = (Exchange.empty.deal dealings).outboxes

/-- The holder of the receiving end of a fresh outbox gets the stream of its connection. -/
theorem Exchange.Keeps.receives {exchange : Exchange} {connection : Connection} {position : Nat}
    (keeps : exchange.Keeps connection position Outbox.fresh)
    (separate : exchange.outboxes.Separate) (later : List Dealing) :
    Receives connection position exchange later := by
  have begins : obtained position (exchange.occasions later) <+:
      stream connection (exchange.occasions later) := keeps.obtained_prefix separate later
  have balanced (kept : .drop position ∉ later) : ∃ outbox : Outbox,
      (exchange.deal later).Keeps connection position outbox ∧
      outbox.attached = !later.any (Dealing.renews connection) ∧
      obtained position (exchange.occasions later) ++ outbox.queued =
        stream connection (exchange.occasions later) := by
    obtain ⟨outbox, keeps', -, attached, balance⟩ := keeps.deal separate rfl later kept
    exact ⟨outbox, keeps', attached, balance⟩
  have found (kept : .drop position ∉ later) :
      ((Dealing.take position).perform (exchange.deal later)).2 = .received
        (match (stream connection (exchange.occasions later)).drop
            (obtained position (exchange.occasions later)).length with
          | notice :: _ => .notice notice
          | [] => if later.any (Dealing.renews connection) then .disconnected else .empty) := by
    obtain ⟨outbox, keeps', attached, balance⟩ := balanced kept
    rw [← balance, List.drop_left, Dealing.perform, Outboxes.take_snd keeps'.found, attached]
    cases outbox.queued with
    | nil => cases later.any (Dealing.renews connection) <;> rfl
    | cons notice rest => rfl
  refine ⟨begins, found, fun kept nothing => ?_, fun kept => ?_, fun dropped notice answer => ?_⟩
  · have next := found kept
    cases missing : (stream connection (exchange.occasions later)).drop
        (obtained position (exchange.occasions later)).length with
    | nil => exact begins.eq_of_length_le (List.drop_eq_nil_iff.1 missing)
    | cons notice rest =>
        rw [missing] at next
        exact absurd next (nothing notice)
  · obtain ⟨outbox, keeps', -, balance⟩ := balanced kept
    have enough : outbox.queued.length ≤
        (stream connection (exchange.occasions later)).length := by
      rw [← balance, List.length_append]
      exact Nat.le_add_left _ _
    rw [Exchange.occasions_append, obtained_append,
      keeps'.obtained_replicate (Exchange.separate_deal separate later),
      List.take_of_length_le enough, balance]
  · obtain ⟨outbox, keeps', gone⟩ := keeps.deal_of_dropped separate dropped
    rw [Dealing.perform, Outboxes.take_snd keeps'.found, keeps'.silent gone] at answer
    cases attached : outbox.attached <;> simp [attached] at answer

/-- Somebody listens exactly if a notice for the connection would reach an outbox. -/
theorem listens_iff (connection : Connection) (dealings : List Dealing) :
    Listens connection dealings ↔
      ∃ position, (Exchange.empty.deal dealings).outboxes.reachable connection =
        some position := by
  have separate (dealings : List Dealing) : (Exchange.empty.deal dealings).outboxes.Separate :=
    Exchange.separate_deal .empty dealings
  constructor
  · rintro ⟨before, after, position, rfl, opened, quiet, kept⟩
    cases opened
    have fresh := Exchange.Keeps.fresh (separate before) connection
    obtain ⟨outbox, keeps, received, attached, -⟩ := fresh.deal
      (Exchange.separate_perform (separate before) (.open connection)) rfl after kept
    rw [Exchange.deal_append]
    refine ⟨_, (keeps.reachable_iff connection).2 ⟨rfl, ?_⟩⟩
    rw [attached, received, quiet]
    rfl
  · rintro ⟨position, reaches⟩
    obtain ⟨before, after, rfl, rfl, quiet⟩ :=
      Exchange.exists_open_of_currentOf (Outboxes.currentOf_of_reachable reaches)
    refine ⟨before, after, _, rfl, rfl, quiet, fun dropped => ?_⟩
    have fresh := Exchange.Keeps.fresh (separate before) connection
    obtain ⟨outbox, keeps, gone⟩ := fresh.deal_of_dropped
      (Exchange.separate_perform (separate before) (.open connection)) dropped
    rw [Exchange.deal_append] at reaches
    have heard := ((keeps.reachable_iff connection).1 reaches).2
    simp [gone] at heard

/-- The streams of an exchange are kept apart: every receiving end gets its own stream, and a notice
that is sent to a connection is accepted if somebody listens there. -/
structure Exchange.StreamsApart (dealings : List Dealing) : Prop where
  /-- Opening a connection yields a receiving end that nobody else has, and its holder gets the
  stream that begins with it. -/
  receives : ∀ before connection later, dealings = before ++ .open connection :: later →
    ∃ position,
      ((Dealing.open connection).perform (Exchange.empty.deal before)).2 = .opened position ∧
      .opened position ∉ Exchange.empty.answers before ∧
      Receives connection position (Exchange.empty.deal (before ++ [.open connection])) later
  /-- A notice that is sent after all these dealings is accepted if somebody listens, and is lost
  otherwise. -/
  sends : ∀ connection notice, Sends connection notice dealings

/-- Whatever is done with an exchange, in whatever order, no notice is lost, doubled, displaced or
handed to the wrong receiver. -/
theorem streams_stay_apart (dealings : List Dealing) : Exchange.StreamsApart dealings where
  receives := by
    rintro before connection later rfl
    have separate : (Exchange.empty.deal before).outboxes.Separate :=
      Exchange.separate_deal .empty before
    refine ⟨_, rfl, fun opened => Nat.lt_irrefl _ (Exchange.lt_of_opened opened), ?_⟩
    rw [Exchange.deal_concat]
    exact (Exchange.Keeps.fresh separate connection).receives
      (Exchange.separate_perform separate (.open connection)) later
  sends := by
    intro connection notice
    have listens := listens_iff connection dealings
    cases reaches : (Exchange.empty.deal dealings).outboxes.reachable connection with
    | none =>
        have nobody : ¬Listens connection dealings := by
          rw [listens, reaches]
          rintro ⟨position, never⟩
          cases never
        have lost : (Dealing.request (.send connection notice)).perform
            (Exchange.empty.deal dealings) =
              ({ Exchange.empty.deal dealings with
                  log := (Exchange.empty.deal dealings).log ++ [.send connection notice] },
                .delivered (.error (.notOpen connection))) := by
          simp [Dealing.perform, Exchange.accept, Exchange.carryOut, Outboxes.deliver, reaches]
        refine ⟨?_, fun hears => absurd hears nobody, fun _ => ?_⟩
        · rw [lost]
          exact iff_of_true rfl nobody
        · rw [lost]
    | some position =>
        have hears : Listens connection dealings := listens.2 ⟨position, reaches⟩
        have accepted : ((Dealing.request (.send connection notice)).perform
            (Exchange.empty.deal dealings)).2 = .delivered (.ok ()) := by
          simp [Dealing.perform, Exchange.accept, Exchange.carryOut, Outboxes.deliver, reaches]
        refine ⟨?_, fun _ => accepted, fun nobody => absurd hears nobody⟩
        rw [accepted]
        exact iff_of_false nofun (not_not_intro hears)

/-- A connection is opened anew before its notice was taken.  The first receiving end still yields
that notice, and the second one gets what comes afterwards. -/
example (first second : Notice) :
    Exchange.empty.answers [.open ⟨"c1"⟩, .request (.send ⟨"c1"⟩ first), .open ⟨"c1"⟩,
        .request (.send ⟨"c1"⟩ second), .take 0, .take 0, .take 1, .take 1] =
      [.opened 0, .delivered (.ok ()), .opened 1, .delivered (.ok ()), .received (.notice first),
        .received .disconnected, .received (.notice second), .received .empty] := by
  rfl

end ChannelMembership
