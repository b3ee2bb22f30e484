import ChannelMembership.Proofs.Switchboard.Seclusion

/-!
# Notices for one user

A notice for a user is sent to each of the user's connections with one call, whatever groups they are
in and whether or not anybody governs the channel of the notice.  Each connection is served once: it
gets its copy, or it is listed with the reason why it did not.
-/

namespace ChannelMembership

namespace Outboxes

theorem deliverAll_append (outboxes : Outboxes) (notice : Notice) (first second : List Connection) :
    Exchange.deliverAll outboxes notice (first ++ second) =
      Exchange.deliverAll (Exchange.deliverAll outboxes notice first) notice second := by
  induction first generalizing outboxes with
  | nil => rfl
  | cons connection rest induction => exact induction _

/-- Copies in outboxes change nothing about who can receive. -/
theorem reachable_deliverAll (outboxes : Outboxes) (notice : Notice) (receivers : List Connection)
    (connection : Connection) :
    (Exchange.deliverAll outboxes notice receivers).reachable connection =
      outboxes.reachable connection := by
  induction receivers generalizing outboxes with
  | nil => rfl
  | cons first rest induction =>
      exact (induction _).trans (outboxes.reachable_deliver first connection notice)

/-- What is handed to somebody who cannot receive changes no outbox. -/
theorem HandedOut.of_reachable {notice : Notice} {receivers served : List Connection}
    {before after : Outboxes} (handedOut : HandedOut notice receivers before after)
    (mem_served : ∀ connection, connection ∈ served ↔
      connection ∈ receivers ∧ before.reachable connection ≠ none) :
    HandedOut notice served before after where
  current := handedOut.current
  copied connection member := handedOut.copied connection ((mem_served connection).1 member).1
  spared position unreached := by
    refine handedOut.spared position fun connection member reaches => ?_
    refine unreached connection ((mem_served connection).2 ⟨member, ?_⟩) reaches
    rw [reaches]
    exact Option.some_ne_none position

/-- Nobody receives what is sent to a connection if it has no outbox, or if the receiving end was
dropped. -/
theorem Separate.reachable_eq_none_iff {outboxes : Outboxes} (separate : outboxes.Separate)
    (connection : Connection) :
    outboxes.reachable connection = none ↔
      outboxes.currentOf connection = none ∨
        ∃ position outbox, outboxes.currentOf connection = some position ∧
          outboxes.boxes[position]? = some outbox ∧ outbox.received = false := by
  cases current : outboxes.currentOf connection with
  | none => simp [reachable, current]
  | some position =>
      have inside := List.getElem?_eq_getElem (separate.inside connection position current)
      simp [reachable, current, inside]

end Outboxes

/-- A notice is sent to several connections, whatever becomes of each. -/
def Exchange.sendAll (exchange : Exchange) (notice : Notice) (receivers : List Connection) :
    Exchange :=
  { exchange with
    outboxes := deliverAll exchange.outboxes notice receivers
    log := exchange.log ++ receivers.map (Call.send · notice) }

namespace Exchange

@[simp]
theorem sendAll_nil (exchange : Exchange) (notice : Notice) :
    exchange.sendAll notice [] = exchange := by
  simp [sendAll, deliverAll]

theorem sendAll_append (exchange : Exchange) (notice : Notice) (first second : List Connection) :
    exchange.sendAll notice (first ++ second) =
      (exchange.sendAll notice first).sendAll notice second := by
  simp [sendAll, Outboxes.deliverAll_append]

theorem accept_send_fst (exchange : Exchange) (connection : Connection) (notice : Notice) :
    (exchange.accept (.send connection notice)).1 = exchange.sendAll notice [connection] := rfl

end Exchange

/-- A copy of a notice that is sent to a connection. -/
structure Copy where
  /-- The connection. -/
  connection : Connection
  /-- Why the call does not reach the exchange, if it does not. -/
  blocked? : Option TransportError
  /-- Whether somebody can receive what is sent to the connection. -/
  heard : Bool
  deriving DecidableEq

namespace Copy

/-- Why the connection does not get the copy, if it does not. -/
def error? (copy : Copy) : Option TransportError :=
  copy.blocked?.or (if copy.heard then none else some (.notOpen copy.connection))

/-- The connections for which the call reaches the exchange. -/
def sent (copies : List Copy) : List Connection :=
  (copies.filter fun copy => copy.blocked?.isNone).map connection

variable {copies : List Copy} {copy : Copy} {connection : Connection}

@[simp]
theorem mem_sent : connection ∈ sent copies ↔
    ∃ copy ∈ copies, copy.connection = connection ∧ copy.blocked? = none := by
  simp only [sent, List.mem_map, List.mem_filter, Option.isNone_iff_eq_none, and_assoc]
  exact exists_congr fun copy => and_congr_right fun _ => and_comm

theorem error?_eq_none_iff : copy.error? = none ↔ copy.blocked? = none ∧ copy.heard = true := by
  simp [error?]

theorem error?_eq_some_iff {error : TransportError} :
    copy.error? = some error ↔ copy.blocked? = some error ∨
      copy.blocked? = none ∧ copy.heard = false ∧ error = .notOpen copy.connection := by
  obtain ⟨connection, blocked?, heard⟩ := copy
  cases blocked? <;> cases heard <;> simp [error?, eq_comm (a := error)]

theorem sent_append (first second : List Copy) :
    sent (first ++ second) = sent first ++ sent second := by
  simp [sent]

end Copy

/-- The copy of a notice that is sent to a connection over a link. -/
def Link.copy (link : Link) (passage : Passage) (connection : Connection) (notice : Notice) : Copy where
  connection := connection
  blocked? := link.blocked? passage (.send connection notice)
  heard := (link.exchange.outboxes.reachable connection).isSome

/-- What becomes of a call that sends a copy. -/
theorem Switchboard.call_send (board : Switchboard) (passage : Passage) (connection : Connection)
    (notice : Notice) :
    board.call passage (.send connection notice) =
      ({ board with
          link := ⟨board.link.drawn passage,
            board.link.exchange.sendAll notice
              (Copy.sent [board.link.copy passage connection notice])⟩ },
        match (board.link.copy passage connection notice).error? with
        | none => .ok ()
        | some error => .error error) := by
  cases blocked : board.link.blocked? passage (.send connection notice) with
  | some error => simp [call_of_blocked blocked, Link.copy, Copy.sent, Copy.error?, blocked]
  | none =>
      rw [call_of_unblocked blocked, Exchange.accept_send_fst]
      cases reaches : board.link.exchange.outboxes.reachable connection <;>
        simp [Link.copy, Copy.sent, Copy.error?, blocked, reaches, Exchange.accept,
          Exchange.carryOut, Outboxes.deliver]

/-- The report on some copies, in the order in which they were sent. -/
def CircularReport.ofCopies (copies : List Copy) : CircularReport where
  delivered := (copies.filter fun copy => copy.error?.isNone).map Copy.connection
  failures := copies.filterMap fun copy => copy.error?.map (Prod.mk copy.connection)

namespace CircularReport

variable {copies : List Copy} {connection : Connection}

@[simp]
theorem mem_delivered_ofCopies :
    connection ∈ (ofCopies copies).delivered ↔
      ∃ copy ∈ copies, copy.connection = connection ∧ copy.error? = none := by
  simp only [ofCopies, List.mem_map, List.mem_filter, Option.isNone_iff_eq_none, and_assoc]
  exact exists_congr fun copy => and_congr_right fun _ => and_comm

@[simp]
theorem mem_failures_ofCopies {error : TransportError} :
    (connection, error) ∈ (ofCopies copies).failures ↔
      ∃ copy ∈ copies, copy.connection = connection ∧ copy.error? = some error := by
  simp [ofCopies, and_comm]

theorem ofCopies_concat (copies : List Copy) (copy : Copy) :
    ofCopies (copies ++ [copy]) =
      match copy.error? with
      | none =>
        { ofCopies copies with
          delivered := (ofCopies copies).delivered ++ [copy.connection] }
      | some error =>
        { ofCopies copies with
          failures := (ofCopies copies).failures ++ [(copy.connection, error)] } := by
  cases error : copy.error? <;> simp [ofCopies, error]

/-- Every copy is listed once, as delivered or as failed. -/
theorem perm_ofCopies (copies : List Copy) :
    ((ofCopies copies).delivered ++ (ofCopies copies).failures.map Prod.fst).Perm
      (copies.map Copy.connection) := by
  have failed : (ofCopies copies).failures.map Prod.fst =
      (copies.filter fun copy => !copy.error?.isNone).map Copy.connection := by
    induction copies with
    | nil => rfl
    | cons copy rest induction =>
        cases error : copy.error? <;> simpa [ofCopies, error] using induction
  rw [failed, ofCopies, ← List.map_append]
  exact (List.filter_append_perm _ copies).map _

end CircularReport

/-- The copy that a strand sends at the moment, if it sends one. -/
def Moment.copy? (position : Nat) (moment : Moment) : Option Copy :=
  match moment.event, moment.system.strands[position]? with
  | .perform other (.copy connection) passage, some (.circulating circular) =>
    if other = position ∧ connection ∈ circular.pending then
      some (moment.system.board.link.copy passage connection circular.notice)
    else none
  | _, _ => none

/-- The copies that a strand sends in a history, in order. -/
def copiesOf (position : Nat) (moments : List Moment) : List Copy :=
  moments.filterMap (Moment.copy? position)

theorem copiesOf_concat (position : Nat) (moments : List Moment) (moment : Moment) :
    copiesOf position (moments ++ [moment]) =
      copiesOf position moments ++ (moment.copy? position).toList := by
  cases copied : moment.copy? position <;> simp [copiesOf, copied]

/-- A strand sends a copy with one call. -/
structure Moment.Sends (moment : Moment) (position : Nat) (notice : Notice) (copy : Copy)
    (passage : Passage) : Prop where
  /-- The answer to the call comes about. -/
  event : moment.event = .perform position (.copy copy.connection) passage
  /-- The link and the outboxes decide what becomes of it. -/
  copy_eq : copy = moment.system.board.link.copy passage copy.connection notice
  /-- If the call is not blocked, the exchange logs it, and the connection gets one copy if somebody can
  receive it. -/
  delivered : copy.blocked? = none →
    moment.next.exchange.log = moment.system.exchange.log ++ [.send copy.connection notice] ∧
      Outboxes.HandedOut notice [copy.connection] moment.system.exchange.outboxes
        moment.next.exchange.outboxes
  /-- If it is, nothing happens to the exchange. -/
  blocked : copy.blocked? ≠ none → moment.next.exchange = moment.system.exchange
  /-- The interference decides about this call and no other. -/
  drawn : moment.next.board.link.interference = moment.system.board.link.drawn passage
  /-- All memberships stay. -/
  groups : moment.next.exchange.groups = moment.system.exchange.groups
  /-- All connections stay registered. -/
  presence : moment.next.board.presence = moment.system.board.presence

/-- How far a notice has come that is sent to some connections. -/
inductive Strand.Circulates (notice : Notice) (addressees : List Connection)
    (copies : List Copy) : Strand → Prop
  /-- Some of them have not been served. -/
  | underway {pending : List Connection}
    (served : (copies.map Copy.connection ++ pending).Perm addressees) (waits : pending ≠ []) :
    Circulates notice addressees copies (.circulating ⟨notice, pending, .ofCopies copies⟩)
  /-- All have been served. -/
  | ended (served : (copies.map Copy.connection).Perm addressees) :
    Circulates notice addressees copies (.ended (.circulated (.ofCopies copies)))
  /-- The strand was given up. -/
  | dropped {pending : List Connection}
    (served : (copies.map Copy.connection ++ pending).Perm addressees) :
    Circulates notice addressees copies .dropped

namespace Strand

variable {notice : Notice} {addressees pending : List Connection} {connection : Connection}
  {copies : List Copy} {strand : Strand} {moment : Moment} {position : Nat} {passage : Passage}

theorem circulates_ofCircular (copies : List Copy)
    (served : (copies.map Copy.connection ++ pending).Perm addressees) :
    (ofCircular ⟨notice, pending, .ofCopies copies⟩).Circulates notice addressees copies := by
  cases pending with
  | nil => exact .ended (by simpa using served)
  | cons first rest => exact .underway served (List.cons_ne_nil _ _)

/-- Nobody but the addressees is served, and nobody twice. -/
theorem Circulates.served (circulates : strand.Circulates notice addressees copies) :
    ∃ pending, (copies.map Copy.connection ++ pending).Perm addressees := by
  cases circulates with
  | underway served waits => exact ⟨_, served⟩
  | ended served => exact ⟨[], by simpa using served⟩
  | dropped served => exact ⟨_, served⟩

/-- A connection is served with one call. -/
theorem perform_copy (board : Switchboard) (served : connection ∈ pending) :
    (circulating ⟨notice, pending, .ofCopies copies⟩).perform board passage (.copy connection) =
      ({ board with
          link := ⟨board.link.drawn passage, board.link.exchange.sendAll notice
            (Copy.sent [board.link.copy passage connection notice])⟩ },
        ofCircular ⟨notice, pending.erase connection,
          .ofCopies (copies ++ [board.link.copy passage connection notice])⟩) := by
  simp only [perform, Circular.perform, served, if_true, Switchboard.call_send,
    CircularReport.ofCopies_concat]
  cases (board.link.copy passage connection notice).error? <;> rfl

end Strand

namespace Moment

variable {notice : Notice} {addressees : List Connection} {connection : Connection}
  {copies : List Copy} {copy : Copy} {strand : Strand} {moment : Moment} {position : Nat}
  {passage : Passage}

theorem copy?_of_perform {circular : Circular}
    (event : moment.event = .perform position (.copy connection) passage)
    (found : moment.system.strands[position]? = some (.circulating circular)) :
    moment.copy? position =
      if connection ∈ circular.pending then
        some (moment.system.board.link.copy passage connection circular.notice)
      else none := by
  simp [copy?, event, found]

/-- A copy is sent when its answer comes about at a strand that hands out a notice. -/
theorem exists_of_copy? (copied : moment.copy? position = some copy) :
    ∃ circular passage, moment.event = .perform position (.copy copy.connection) passage ∧
      moment.system.strands[position]? = some (.circulating circular) ∧
      copy.connection ∈ circular.pending ∧
      copy = moment.system.board.link.copy passage copy.connection circular.notice := by
  unfold copy? at copied
  split at copied
  · rename_i other connection passage circular event found
    split at copied
    · rename_i same
      obtain ⟨rfl, waits⟩ := same
      cases copied
      exact ⟨circular, passage, event, found, waits, rfl⟩
    · cases copied
  · cases copied

theorem copy?_eq_none (elsewhere : ∀ connection passage,
    moment.event ≠ .perform position (.copy connection) passage) : moment.copy? position = none := by
  cases copied : moment.copy? position with
  | none => rfl
  | some copy =>
      obtain ⟨_, passage, event, -⟩ := exists_of_copy? copied
      exact absurd event (elsewhere _ passage)

/-- A strand that is over sends no copies. -/
theorem copy?_eq_none_of_isOver (found : moment.system.strands[position]? = some strand)
    (finished : strand.isOver = true) : moment.copy? position = none := by
  cases copied : moment.copy? position with
  | none => rfl
  | some copy =>
      obtain ⟨_, -, -, found', -⟩ := exists_of_copy? copied
      cases found.symm.trans found'
      cases finished

/-- A copy is sent with one call, which is all that happens. -/
theorem board_next_of_copy? (found : moment.system.strands[position]? = some strand)
    (circulates : strand.Circulates notice addressees copies)
    (copied : moment.copy? position = some copy) :
    ∃ passage, moment.event = .perform position (.copy copy.connection) passage ∧
      copy = moment.system.board.link.copy passage copy.connection notice ∧
      moment.next.board =
        { moment.system.board with
          link := ⟨moment.system.board.link.drawn passage,
            moment.system.exchange.sendAll notice (Copy.sent [copy])⟩ } := by
  obtain ⟨circular, passage, event, found', waits, same⟩ := exists_of_copy? copied
  cases found.symm.trans found'
  cases circulates with
  | underway served rest =>
      refine ⟨passage, event, same, ?_⟩
      rw [next_of_perform event found', Strand.perform_copy _ waits, ← same]
      rfl

/-- While no two connections share an outbox, a copy reaches its connection only. -/
theorem sends_of_copy? (separate : moment.system.exchange.outboxes.Separate)
    (found : moment.system.strands[position]? = some strand)
    (circulates : strand.Circulates notice addressees copies)
    (copied : moment.copy? position = some copy) :
    ∃ passage, moment.Sends position notice copy passage := by
  obtain ⟨passage, event, same, board⟩ := board_next_of_copy? found circulates copied
  have exchange : moment.next.exchange =
      moment.system.exchange.sendAll notice (Copy.sent [copy]) := by
    rw [System.exchange, board]
  refine ⟨passage, event, same, fun free => ?_, fun blocked => ?_, ?_, ?_, ?_⟩
  · have sent : Copy.sent [copy] = [copy.connection] := by simp [Copy.sent, free]
    rw [exchange, sent]
    exact ⟨rfl, separate.handedOut notice (List.nodup_singleton _)⟩
  · have unsent : Copy.sent [copy] = [] := by simp [Copy.sent, blocked]
    rw [exchange, unsent, Exchange.sendAll_nil]
  · rw [board]
  · rw [exchange]
    rfl
  · rw [board]

/-- What happens to a strand that sends no copy at the moment leaves everything else alone. -/
theorem board_next_of_copy?_eq_none (found : moment.system.strands[position]? = some strand)
    (circulates : strand.Circulates notice addressees copies)
    (here : moment.event.strand? = some position) (silent : moment.copy? position = none) :
    moment.next.board = moment.system.board := by
  have idle : strand.isOver = true ∨ ∃ circular, strand = .circulating circular := by
    cases circulates with
    | underway served waits => exact .inr ⟨_, rfl⟩
    | ended served => exact .inl rfl
    | dropped served => exact .inl rfl
  cases event : moment.event with
  | visit other =>
      simp only [next, event, System.step]
      split <;> rfl
  | perform other spot passage =>
      obtain rfl : other = position := by simpa [event, Event.strand?] using here
      rw [next_of_perform event found]
      rcases idle with finished | ⟨circular, rfl⟩
      · rw [Strand.perform_of_isOver finished]
        rfl
      · cases spot with
        | copy connection =>
            have unserved : connection ∉ circular.pending := by
              simpa [copy?_of_perform event found] using silent
            simp only [Strand.perform, Circular.perform, unserved, if_false]
            rfl
        | _ => rfl
  | expire other =>
      obtain rfl : other = position := by simpa [event, Event.strand?] using here
      rw [next_of_expire event found]
      rcases idle with finished | ⟨circular, rfl⟩
      · rw [Strand.expire_of_isOver finished]
        rfl
      · rfl
  | abandon other kept =>
      obtain rfl : other = position := by simpa [event, Event.strand?] using here
      have given : (strand.abandon moment.system.board).1 = moment.system.board := by
        rcases idle with finished | ⟨circular, rfl⟩
        · cases strand <;> first | rfl | cases finished
        · rfl
      simp only [next, event, System.step, found, System.put]
      split <;> exact given
  | _ => simp [event, Event.strand?] at here

/-- A strand that hands out a notice sends a copy or does nothing. -/
theorem exchange_next_of_circulates (moment : Moment)
    (found : moment.system.strands[position]? = some strand)
    (circulates : strand.Circulates notice addressees copies)
    (here : moment.event.strand? = some position) :
    moment.next.exchange =
        moment.system.exchange.sendAll notice (Copy.sent (moment.copy? position).toList) ∧
      moment.next.board.presence = moment.system.board.presence := by
  cases copied : moment.copy? position with
  | none =>
      have board := board_next_of_copy?_eq_none found circulates here copied
      refine ⟨?_, by rw [board]⟩
      rw [System.exchange, board]
      exact (Exchange.sendAll_nil _ notice).symm
  | some copy =>
      obtain ⟨passage, -, -, board⟩ := board_next_of_copy? found circulates copied
      refine ⟨?_, by rw [board]⟩
      rw [System.exchange, board]
      rfl

end Moment

namespace Strand

variable {notice : Notice} {addressees : List Connection} {copies : List Copy} {strand : Strand}
  {moment : Moment} {position : Nat}

/-- A notice for some connections comes one step further. -/
theorem Circulates.next (moment : Moment) (found : moment.system.strands[position]? = some strand)
    (circulates : strand.Circulates notice addressees copies) :
    ∃ after, moment.next.strands[position]? = some after ∧
      after.Circulates notice addressees (copies ++ (moment.copy? position).toList) := by
  have known : ∀ user, strand ≠ .queued user := by
    rintro user rfl
    cases circulates
  have unchanged (same : moment.next.strands[position]? = some strand)
      (silent : moment.copy? position = none) :
      ∃ after, moment.next.strands[position]? = some after ∧
        after.Circulates notice addressees (copies ++ (moment.copy? position).toList) := by
    refine ⟨strand, same, ?_⟩
    simpa [silent] using circulates
  have finished (finished : strand.isOver = true) :=
    unchanged (Moment.strand_next_of_isOver found finished)
      (Moment.copy?_eq_none_of_isOver found finished)
  cases circulates with
  | ended served => exact finished rfl
  | dropped served => exact finished rfl
  | @underway pending served waits =>
      cases moment.turn found known with
      | stays same elsewhere => exact unchanged same (Moment.copy?_eq_none fun _ _ => elsewhere _ _)
      | answers spot passage event next board =>
          cases spot with
          | copy connection =>
              by_cases awaited : connection ∈ pending
              · refine ⟨_, next, ?_⟩
                rw [perform_copy _ awaited, Moment.copy?_of_perform event found, if_pos awaited]
                refine circulates_ofCircular _ (.trans ?_ served)
                have taken := (List.perm_cons_erase awaited).symm.append_left
                  (copies.map Copy.connection)
                simpa [Link.copy] using taken
              · refine unchanged ?_ ?_
                · rw [next]
                  simp [perform, Circular.perform, awaited, ofCircular, waits]
                · rw [Moment.copy?_of_perform event found, if_neg awaited]
          | _ => exact unchanged next (Moment.copy?_eq_none (by simp [event]))
      | expires event next board =>
          exact unchanged next (Moment.copy?_eq_none (by simp [event]))
      | abandoned kept event next =>
          refine ⟨_, next, ?_⟩
          rw [Moment.copy?_eq_none (by simp [event])]
          exact .dropped (by simpa using served)

theorem Circulates.ends (circulates : strand.Circulates notice addressees copies)
    (board : Switchboard) : strand.Ends board := by
  cases circulates with
  | @underway pending served waits =>
      have same : circulating ⟨notice, pending, .ofCopies copies⟩ =
          ofCircular ⟨notice, pending, .ofCopies copies⟩ := by simp [ofCircular, waits]
      exact same ▸ ends_ofCircular _ board
  | ended served => exact ends_of_isOver rfl
  | dropped served => exact ends_of_isOver rfl

end Strand

namespace System

variable {system : System} {notice : Notice} {user : UserKey} {rest : List Event}

/-- The system once a notice for a user has been handed in. -/
def circulate (system : System) (notice : Notice) (user : UserKey) : System :=
  system.step (.submit (.circulate notice user))

/-- To hand a notice in changes nothing. -/
theorem circulate_board (system : System) (notice : Notice) (user : UserKey) :
    (system.circulate notice user).board = system.board := rfl

/-- Whatever happens, a notice for a user goes its way. -/
theorem circulates_run (system : System) (notice : Notice) (user : UserKey) (rest : List Event) :
    ∃ strand,
      ((system.circulate notice user).run rest).strands[system.strands.length]? = some strand ∧
        strand.Circulates notice (system.board.presence.connections user)
          (copiesOf system.strands.length ((system.circulate notice user).moments rest)) := by
  induction rest using List.reverseRecOn with
  | nil => exact ⟨_, List.getElem?_concat_length, Strand.circulates_ofCircular [] (.refl _)⟩
  | append_singleton rest event induction =>
      obtain ⟨strand, found, circulates⟩ := induction
      rw [run_concat, moments_concat, copiesOf_concat]
      exact circulates.next ⟨(system.circulate notice user).run rest, event⟩ found

/-- While nothing but its answers comes about, a notice goes into outboxes and the log and changes
nothing else. -/
theorem secluded_circulate (system : System) (notice : Notice) (user : UserKey)
    (secluded : ∀ event ∈ rest, event.Furthers system.strands.length) :
    ((system.circulate notice user).run rest).exchange =
        system.exchange.sendAll notice (Copy.sent
          (copiesOf system.strands.length ((system.circulate notice user).moments rest))) ∧
      ((system.circulate notice user).run rest).board.presence = system.board.presence ∧
      ∀ copy ∈ copiesOf system.strands.length ((system.circulate notice user).moments rest),
        copy.heard = (system.exchange.outboxes.reachable copy.connection).isSome := by
  induction rest using List.reverseRecOn with
  | nil => exact ⟨(system.exchange.sendAll_nil notice).symm, rfl, nofun⟩
  | append_singleton rest event induction =>
      obtain ⟨exchange, presence, heard⟩ := induction fun event member =>
        secluded event (List.mem_append_left _ member)
      have furthers := secluded event (List.mem_append_right _ List.mem_cons_self)
      obtain ⟨strand, found, circulates⟩ := system.circulates_run notice user rest
      let moment : Moment := ⟨(system.circulate notice user).run rest, event⟩
      obtain ⟨sent, stays⟩ :=
        moment.exchange_next_of_circulates found circulates furthers.strand?_eq
      rw [run_concat, moments_concat, copiesOf_concat, Copy.sent_append, Exchange.sendAll_append,
        ← exchange]
      refine ⟨sent, stays.trans presence, fun copy member => ?_⟩
      rcases List.mem_append.1 member with earlier | now
      · exact heard copy earlier
      · obtain ⟨circular, passage, -, -, -, same⟩ :=
          Moment.exists_of_copy? (Option.mem_toList.1 now)
        have listens : copy.heard = (moment.system.exchange.outboxes.reachable
            copy.connection).isSome := congrArg Copy.heard same
        rw [listens, exchange]
        exact congrArg Option.isSome (Outboxes.reachable_deliverAll _ _ _ _)

end System
/-- A report accounts for the copies sent to some connections. -/
structure CircularReport.Accounts (copies : List Copy) (connections : List Connection)
    (report : CircularReport) : Prop where
  /-- One copy was sent to each connection. -/
  attempted : (copies.map Copy.connection).Perm connections
  /-- No connection is listed twice, neither among the served nor among the failed ones nor in both. -/
  distinct : (report.delivered ++ report.failures.map Prod.fst).Nodup
  /-- Exactly these connections are listed. -/
  complete : ∀ connection,
    connection ∈ report.delivered ++ report.failures.map Prod.fst ↔ connection ∈ connections
  /-- Those who got their copies are listed as served. -/
  delivered_iff : ∀ connection, connection ∈ report.delivered ↔
    ∃ copy ∈ copies, copy.connection = connection ∧ copy.error? = none
  /-- The others are listed with the error. -/
  failed_iff : ∀ connection error, (connection, error) ∈ report.failures ↔
    ∃ copy ∈ copies, copy.connection = connection ∧ copy.error? = some error

theorem CircularReport.accounts_ofCopies {copies : List Copy} {connections : List Connection}
    (attempted : (copies.map Copy.connection).Perm connections) (separate : connections.Nodup) :
    (ofCopies copies).Accounts copies connections where
  attempted := attempted
  distinct := ((perm_ofCopies copies).trans attempted).nodup_iff.2 separate
  complete _ := ((perm_ofCopies copies).trans attempted).mem_iff
  delivered_iff _ := mem_delivered_ofCopies
  failed_iff _ _ := mem_failures_ofCopies

/-- Where it is known who listens, those are served whose copies were sent and who listen. -/
theorem CircularReport.mem_delivered_iff_of_listens {copies : List Copy}
    {outboxes : Outboxes}
    (listens : ∀ copy ∈ copies, copy.heard = true ↔ outboxes.reachable copy.connection ≠ none)
    (connection : Connection) :
    connection ∈ (ofCopies copies).delivered ↔
      connection ∈ Copy.sent copies ∧ outboxes.reachable connection ≠ none := by
  rw [mem_delivered_ofCopies, Copy.mem_sent]
  constructor
  · rintro ⟨copy, member, rfl, fine⟩
    obtain ⟨free, heard⟩ := Copy.error?_eq_none_iff.1 fine
    exact ⟨⟨copy, member, rfl, free⟩, (listens copy member).1 heard⟩
  · rintro ⟨⟨copy, member, rfl, free⟩, listening⟩
    exact ⟨copy, member, rfl,
      Copy.error?_eq_none_iff.2 ⟨free, (listens copy member).2 listening⟩⟩

/-- What has become of a system in which a notice was handed out and nothing else happened. -/
structure System.OnlyServed (before after : System) (notice : Notice) (copies : List Copy)
    (report : CircularReport) : Prop where
  /-- The served connections have one copy each in their outboxes, and no other outbox has changed. -/
  handedOut : Outboxes.HandedOut notice report.delivered before.exchange.outboxes
    after.exchange.outboxes
  /-- Every served connection had an outbox and somebody to receive from it. -/
  heard : ∀ connection ∈ report.delivered, before.exchange.outboxes.reachable connection ≠ none
  /-- A connection failed because its call was blocked, or else because it had no outbox, or because
  the receiving end was dropped; then it was not open. -/
  failed_iff : ∀ connection error, (connection, error) ∈ report.failures ↔
    ∃ copy ∈ copies, copy.connection = connection ∧
      (copy.blocked? = some error ∨
        copy.blocked? = none ∧ error = .notOpen connection ∧
          (before.exchange.outboxes.currentOf connection = none ∨
            ∃ position outbox,
              before.exchange.outboxes.currentOf connection = some position ∧
              before.exchange.outboxes.boxes[position]? = some outbox ∧ outbox.received = false))
  /-- The calls that were not blocked are in the log. -/
  log : after.exchange.log =
    before.exchange.log ++ (Copy.sent copies).map (Call.send · notice)
  /-- All memberships stay. -/
  groups : after.exchange.groups = before.exchange.groups
  /-- All connections stay registered. -/
  presence : after.board.presence = before.board.presence

/-- How a notice for a user goes, whatever happens after it was handed in. -/
structure Circulation (system : System) (notice : Notice) (user : UserKey) (rest : List Event) :
    Prop where
  /-- To hand it in changes nothing. -/
  made : (system.circulate notice user).board = system.board
  /-- Nothing that happens to its strand afterwards changes anything, unless a copy is sent. -/
  quiet : ∀ moment ∈ (system.circulate notice user).moments rest,
    moment.event.strand? = some system.strands.length →
      moment.copy? system.strands.length = none → moment.next.board = moment.system.board
  /-- Every copy is sent with one call. -/
  sends : ∀ moment ∈ (system.circulate notice user).moments rest, ∀ copy,
    moment.copy? system.strands.length = some copy →
      ∃ passage, moment.Sends system.strands.length notice copy passage
  /-- Nobody is sent a copy twice. -/
  once : ((copiesOf system.strands.length
    ((system.circulate notice user).moments rest)).map Copy.connection).Nodup
  /-- Only connections that the user had when the notice was handed in are sent a copy. -/
  addressed : ∀ copy ∈ copiesOf system.strands.length
    ((system.circulate notice user).moments rest),
      copy.connection ∈ system.board.presence.connections user
  /-- When the notice has gone its way, the report accounts for all connections of the user. -/
  reported : ∀ conclusion,
    ((system.circulate notice user).run rest).strands[system.strands.length]? =
        some (.ended conclusion) →
      ∃ report, conclusion = .circulated report ∧
        report.Accounts (copiesOf system.strands.length
            ((system.circulate notice user).moments rest))
          (system.board.presence.connections user)
  /-- If nothing else has happened meanwhile, nothing else has changed. -/
  secluded : (∀ event ∈ rest, event.Furthers system.strands.length) → ∀ report,
    ((system.circulate notice user).run rest).strands[system.strands.length]? =
        some (.ended (.circulated report)) →
      system.OnlyServed ((system.circulate notice user).run rest) notice
        (copiesOf system.strands.length ((system.circulate notice user).moments rest)) report
  /-- The notice can always be brought to its end by its own answers. -/
  finishes : ∃ more, (∀ event ∈ more, event.Advances system.strands.length) ∧
    ((system.circulate notice user).run (rest ++ more)).Finished system.strands.length

namespace System

variable {system : System} {notice : Notice} {user : UserKey} {rest : List Event}

/-- No two connections share an outbox while a notice goes its way. -/
theorem Reached.separate_circulate (reached : system.Reached) (notice : Notice) (user : UserKey)
    (rest : List Event) : ((system.circulate notice user).run rest).exchange.outboxes.Separate :=
  ((reached.step (.submit (.circulate notice user))).run rest).separate

theorem onlyServed_circulate (reached : system.Reached)
    (secluded : ∀ event ∈ rest, event.Furthers system.strands.length)
    {report : CircularReport}
    (ended : ((system.circulate notice user).run rest).strands[system.strands.length]? =
      some (.ended (.circulated report))) :
    system.OnlyServed ((system.circulate notice user).run rest) notice
      (copiesOf system.strands.length ((system.circulate notice user).moments rest)) report := by
  obtain ⟨strand, found, circulates⟩ := system.circulates_run notice user rest
  obtain ⟨exchange, presence, heard⟩ := system.secluded_circulate notice user secluded
  generalize copiesOf system.strands.length ((system.circulate notice user).moments rest) = copies
    at circulates exchange heard ⊢
  cases found.symm.trans ended
  cases circulates with
  | ended served =>
      have separate := reached.separate
      have listens : ∀ copy ∈ copies, copy.heard = true ↔
          system.exchange.outboxes.reachable copy.connection ≠ none := fun copy member => by
        rw [heard copy member, Option.isSome_iff_ne_none]
      have mem_delivered := CircularReport.mem_delivered_iff_of_listens listens
      have distinct : (Copy.sent copies).Nodup := by
        have each := served.nodup_iff.2 (system.board.presence.nodup_connections user)
        exact each.sublist (List.filter_sublist.map _)
      refine ⟨?_, fun connection member => ((mem_delivered connection).1 member).2, ?_, ?_, ?_,
        presence⟩
      · rw [exchange]
        exact (separate.handedOut notice distinct).of_reachable mem_delivered
      · intro connection error
        rw [CircularReport.mem_failures_ofCopies, ← separate.reachable_eq_none_iff]
        refine exists_congr fun copy => and_congr_right fun member => and_congr_right ?_
        rintro rfl
        rw [Copy.error?_eq_some_iff, ← Bool.not_eq_true, listens copy member, not_ne_iff]
        exact or_congr_right (and_congr_right fun _ => and_comm)
      · rw [exchange]
        rfl
      · rw [exchange]
        rfl

end System

/-- A notice for a user is sent once to every connection that the user has, and to nobody else.  The
report lists each connection once, as served or as failed; the served ones have got one copy each, and
nothing else has changed. -/
theorem circulation_accounts_for_everybody {system : System} (reached : system.Reached)
    (notice : Notice) (user : UserKey) (rest : List Event) :
    Circulation system notice user rest := by
  obtain ⟨strand, found, circulates⟩ := system.circulates_run notice user rest
  obtain ⟨pending, served⟩ := circulates.served
  have distinct := served.nodup_iff.2 (system.board.presence.nodup_connections user)
  refine ⟨system.circulate_board notice user, ?_, ?_, (List.nodup_append.1 distinct).1, ?_, ?_, ?_, ?_⟩
  · intro moment member here silent
    obtain ⟨before, after, -, same⟩ := System.exists_of_mem_moments member
    obtain ⟨strand, found, circulates⟩ := system.circulates_run notice user before
    rw [← same] at found
    exact Moment.board_next_of_copy?_eq_none found circulates here silent
  · intro moment member copy copied
    obtain ⟨before, after, -, same⟩ := System.exists_of_mem_moments member
    obtain ⟨strand, found, circulates⟩ := system.circulates_run notice user before
    have separate := reached.separate_circulate notice user before
    rw [← same] at found separate
    exact Moment.sends_of_copy? separate found circulates copied
  · intro copy member
    exact served.subset (List.mem_append_left _ (List.mem_map_of_mem member))
  · intro conclusion ended
    cases found.symm.trans ended
    cases circulates with
    | ended served =>
        exact ⟨_, rfl, CircularReport.accounts_ofCopies served
          (system.board.presence.nodup_connections user)⟩
  · intro secluded report ended
    exact System.onlyServed_circulate reached secluded ended
  · obtain ⟨more, moved, advances, same, isOver⟩ :=
      System.exists_answers found (circulates.ends _)
    refine ⟨more, advances, moved.2, ?_, isOver⟩
    rw [System.run_append, same]
    exact System.getElem?_put_self found moved

/-- Of the connections of the first user, two can receive, one has dropped its receiving end, and one
was never opened.  The second user has a connection, too. -/
def scatteredNewsroom : System :=
  quietNewsroom.run
    [.register firstUser ⟨"c1"⟩, .register firstUser ⟨"c2"⟩, .register firstUser ⟨"c3"⟩,
      .register firstUser ⟨"c4"⟩, .register secondUser ⟨"d1"⟩, .open ⟨"c1"⟩, .open ⟨"c2"⟩,
      .open ⟨"c4"⟩, .open ⟨"d1"⟩, .dropReceiver 1]

theorem scatteredNewsroom_reached : scatteredNewsroom.Reached :=
  (System.Reached.initial newsroom Limits.standard none).run _

/-- A notice on a channel that nobody governs. -/
def gossip : Notice := ⟨⟨"gossip"⟩, .updated, secondUser.value⟩

/-- The copies are sent in some order, and one of the calls fails on the way. -/
def scatteredAnswers : List Event :=
  [.perform 0 (.copy ⟨"c3"⟩) .through, .perform 0 (.copy ⟨"c1"⟩) .through,
    .perform 0 (.copy ⟨"c4"⟩) (.blocked (.failed "lost")), .perform 0 (.copy ⟨"c2"⟩) .through]

theorem gossip_reaches_one_in_newsroom :
    ∃ report,
      ((scatteredNewsroom.circulate gossip firstUser).run scatteredAnswers).strands[0]? =
        some (.ended (.circulated report)) ∧
      report.delivered = [⟨"c1"⟩] ∧
      report.failures = [(⟨"c3"⟩, .notOpen ⟨"c3"⟩), (⟨"c4"⟩, .failed "lost"),
        (⟨"c2"⟩, .notOpen ⟨"c2"⟩)] ∧
      scatteredNewsroom.OnlyServed
        ((scatteredNewsroom.circulate gossip firstUser).run scatteredAnswers) gossip
        (copiesOf 0 ((scatteredNewsroom.circulate gossip firstUser).moments scatteredAnswers))
        report ∧
      ((scatteredNewsroom.circulate gossip firstUser).run
        scatteredAnswers).exchange.outboxes.boxes.map Outbox.queued = [[gossip], [], [], []] := by
  have circulation := circulation_accounts_for_everybody scatteredNewsroom_reached gossip firstUser
    scatteredAnswers
  have ended : ((scatteredNewsroom.circulate gossip firstUser).run scatteredAnswers).strands[0]? =
      some (.ended (.circulated ⟨[⟨"c1"⟩], [(⟨"c3"⟩, .notOpen ⟨"c3"⟩), (⟨"c4"⟩, .failed "lost"),
        (⟨"c2"⟩, .notOpen ⟨"c2"⟩)]⟩)) := rfl
  have alone : ∀ event ∈ scatteredAnswers, event.Furthers 0 := by
    simp [scatteredAnswers, Event.Furthers.answer]
  exact ⟨_, ended, rfl, rfl, circulation.secluded alone _ ended, by decide +kernel⟩

end ChannelMembership
