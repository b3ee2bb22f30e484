import ChannelMembership.Proofs.Switchboard.Moment

/-!
# The ledger of a user

What happens to the slot of a user is kept in a ledger: work arrives, a pass begins on the
connections live at that moment, a run is given up.  Every moment of a history is of one of four
kinds, and only three of them leave a mark in the ledger of some user.
-/

namespace ChannelMembership

/-- Work arriving at the slot of a user. -/
structure Arrival where
  /-- The user. -/
  user : UserKey
  /-- The work. -/
  work : Work
  /-- The failure that is reported when the work is done. -/
  failure : Option LookupError
  /-- The strand with which it arrives. -/
  strand : Nat
  /-- Whether this is work left undone by a run that was given up. -/
  resumed : Bool
  /-- Whether the slot is idle, so that the strand enters it and runs. -/
  opens : Bool
  deriving DecidableEq

/-- A mark in the ledger of a user. -/
inductive Mark where
  /-- Work arrives. -/
  | arrived (arrival : Arrival)
  /-- A pass begins on these connections. -/
  | began (work : Work) (found : List Connection)
  /-- A run is given up with this work undone, which is kept to be resumed or lost. -/
  | interrupted (work : Work) (kept : Bool)
  deriving DecidableEq

namespace Mark

/-- The work that arrives. -/
def arrival? : Mark → Option Arrival
  | arrived arrival => some arrival
  | _ => none

/-- The work and the connections of the pass that begins. -/
def pass? : Mark → Option (Work × List Connection)
  | began work found => some (work, found)
  | _ => none

end Mark

/-- All work that arrived, oldest first. -/
def arrivals (ledger : List Mark) : List Arrival := ledger.filterMap Mark.arrival?

/-- The passes that were begun, oldest first. -/
def passes (ledger : List Mark) : List (Work × List Connection) := ledger.filterMap Mark.pass?

section Lists

variable (arrival : Arrival) (work : Work) (found : List Connection) (kept : Bool)
  (ledger later : List Mark)

@[simp]
theorem arrivals_nil : arrivals [] = [] := rfl

@[simp]
theorem arrivals_arrived :
    arrivals (.arrived arrival :: ledger) = arrival :: arrivals ledger := rfl

@[simp]
theorem arrivals_began : arrivals (.began work found :: ledger) = arrivals ledger := rfl

@[simp]
theorem arrivals_interrupted : arrivals (.interrupted work kept :: ledger) = arrivals ledger := rfl

@[simp]
theorem arrivals_append : arrivals (ledger ++ later) = arrivals ledger ++ arrivals later :=
  List.filterMap_append

@[simp]
theorem passes_nil : passes [] = [] := rfl

@[simp]
theorem passes_arrived : passes (.arrived arrival :: ledger) = passes ledger := rfl

@[simp]
theorem passes_began : passes (.began work found :: ledger) = (work, found) :: passes ledger := rfl

@[simp]
theorem passes_interrupted : passes (.interrupted work kept :: ledger) = passes ledger := rfl

@[simp]
theorem passes_append : passes (ledger ++ later) = passes ledger ++ passes later :=
  List.filterMap_append

theorem mem_passes {ledger : List Mark} {work : Work} {found : List Connection} :
    (work, found) ∈ passes ledger ↔ .began work found ∈ ledger := by
  constructor
  · intro passed
    obtain ⟨mark, marked, began⟩ := List.mem_filterMap.1 passed
    cases mark with
    | began work found =>
        cases began
        exact marked
    | _ => cases began
  · intro began
    exact List.mem_filterMap.2 ⟨_, began, rfl⟩

end Lists

/-- The work of a user is done in turn: work that arrived waits until its pass begins, until newer
work takes its place or until the run is given up.  What waits at the end is told as well. -/
inductive InTurn : List Mark → Option Work → Prop
  /-- Nothing has happened yet. -/
  | nil : InTurn [] none
  /-- Work arrives; work that waited is replaced. -/
  | arrived {ledger : List Mark} {waiting : Option Work} (arrival : Arrival)
    (before : InTurn ledger waiting) : InTurn (ledger ++ [.arrived arrival]) (some arrival.work)
  /-- The pass of the waiting work begins. -/
  | began {ledger : List Mark} {work : Work} (found : List Connection)
    (before : InTurn ledger (some work)) : InTurn (ledger ++ [.began work found]) none
  /-- The run is given up, and nothing waits any more. -/
  | interrupted {ledger : List Mark} {waiting : Option Work} (work : Work) (kept : Bool)
    (before : InTurn ledger waiting) : InTurn (ledger ++ [.interrupted work kept]) none

/-- When nothing waits and the last mark is a pass, the pass is that of the work that arrived
last. -/
theorem InTurn.last_pass {ledger : List Mark} (turn : InTurn ledger none) (nonempty : ledger ≠ [])
    (completed : ∀ work kept, ledger.getLast? ≠ some (.interrupted work kept)) :
    ∃ earlier arrival found, ledger = earlier ++ [.arrived arrival, .began arrival.work found] := by
  cases turn with
  | nil => exact absurd rfl nonempty
  | interrupted work kept before => exact absurd (by simp) (completed work kept)
  | @began ledger work found before =>
      cases before with
      | @arrived earlier waiting arrival before =>
          exact ⟨earlier, arrival, found, by simp⟩

namespace Moment

/-- The arrival of some work. -/
def arrivalOf (moment : Moment) (strand : Nat) (user : UserKey)
    (demand : Work × Option LookupError) (resumed : Bool) : Arrival where
  user := user
  work := demand.1
  failure := demand.2
  strand := strand
  resumed := resumed
  opens := moment.system.board.slots.slot user = .idle

/-- The arrival of work that is requested; nothing arrives for a user who is offline. -/
def request? (moment : Moment) (strand : Nat) (user : UserKey)
    (demand : Work × Option LookupError) : Option Arrival :=
  if moment.system.board.presence.isOnline user then some (moment.arrivalOf strand user demand false)
  else none

/-- The work that arrives at a slot at the moment, if any. -/
def arrival? (moment : Moment) : Option Arrival :=
  match moment.event with
  | .submit (.refresh principal) =>
    principal.user.bind fun user =>
      moment.request? moment.system.strands.length user (.reconcile principal, none)
  | .submit (.revokeUser user) =>
    moment.request? moment.system.strands.length user (.revoke, none)
  | .perform position .account _ =>
    match moment.system.strands[position]? with
    | some (.lookingUp user) =>
      moment.request? position user ((moment.system.board.accounts user).demand user)
    | _ => none
  | .resume =>
    moment.system.undone.head?.map fun (user, work) =>
      moment.arrivalOf moment.system.strands.length user (work, none) true
  | _ => none

/-- The marks that the moment leaves in the ledger of a user. -/
def marks (user : UserKey) (moment : Moment) : List Mark :=
  let found := moment.system.board.presence.connections user
  match moment.arrival? with
  | some arrival =>
    if arrival.user = user then
      if arrival.opens then [.arrived arrival, .began arrival.work found] else [.arrived arrival]
    else []
  | none =>
    match moment.event with
    | .perform position spot passage =>
      match moment.system.strands[position]? with
      | some (.running run _) =>
        if run.ticket.user = user then
          match run.successor? moment.system.board passage spot with
          | some work => [.began work found]
          | none => []
        else []
      | _ => []
    | .abandon position kept =>
      match moment.system.strands[position]? with
      | some (.running run _) =>
        if run.ticket.user = user then
          [.interrupted (run.abandon moment.system.board).2.2 kept]
        else []
      | _ => []
    | _ => []

end Moment

/-- The ledger of a user in a history. -/
def ledger (user : UserKey) (moments : List Moment) : List Mark :=
  moments.flatMap (Moment.marks user)

theorem ledger_append (user : UserKey) (moments later : List Moment) :
    ledger user (moments ++ later) = ledger user moments ++ ledger user later :=
  List.flatMap_append

theorem ledger_cons (user : UserKey) (moment : Moment) (later : List Moment) :
    ledger user (moment :: later) = moment.marks user ++ ledger user later :=
  List.flatMap_cons

theorem ledger_concat (user : UserKey) (moments : List Moment) (moment : Moment) :
    ledger user (moments ++ [moment]) = ledger user moments ++ moment.marks user := by
  simp [ledger]

namespace Moment

/-- The connections of a pass are those that are registered when it begins. -/
theorem found_of_began {moment : Moment} {user : UserKey} {work : Work} {found : List Connection}
    (began : .began work found ∈ moment.marks user) :
    found = moment.system.board.presence.connections user := by
  simp only [marks] at began
  split at began
  · split at began
    · split at began <;> simp_all
    · cases began
  · split at began
    · split at began
      · split at began
        · split at began <;> simp_all
        · cases began
      · cases began
    · split at began
      · split at began <;> simp_all
      · cases began
    · cases began

/-- Only the abandonment of a strand interrupts a run. -/
theorem event_of_interrupted {moment : Moment} {user : UserKey} {work : Work} {kept : Bool}
    (interrupted : .interrupted work kept ∈ moment.marks user) :
    ∃ position, moment.event = .abandon position kept := by
  simp only [marks] at interrupted
  split at interrupted
  · split at interrupted
    · split at interrupted <;> simp at interrupted
    · cases interrupted
  · split at interrupted
    · split at interrupted
      · split at interrupted
        · split at interrupted <;> simp at interrupted
        · cases interrupted
      · cases interrupted
    · rename_i position kept' event
      split at interrupted
      · split at interrupted
        · simp only [List.mem_singleton, Mark.interrupted.injEq] at interrupted
          obtain ⟨-, rfl⟩ := interrupted
          exact ⟨position, event⟩
        · cases interrupted
      · cases interrupted
    · cases interrupted

end Moment

theorem found_of_began {user : UserKey} {moments : List Moment} {work : Work}
    {found : List Connection} (began : .began work found ∈ ledger user moments) :
    ∃ moment ∈ moments, found = moment.system.board.presence.connections user := by
  obtain ⟨moment, member, began⟩ := List.mem_flatMap.1 began
  exact ⟨moment, member, Moment.found_of_began began⟩

namespace Moment

variable {moment : Moment}

theorem opens_of_arrival? {arrival : Arrival} (arrived : moment.arrival? = some arrival) :
    arrival.opens = decide (moment.system.board.slots.slot arrival.user = .idle) := by
  have requested {strand : Nat} {user : UserKey} {demand : Work × Option LookupError}
      (arrived : moment.request? strand user demand = some arrival) :
      arrival.opens = decide (moment.system.board.slots.slot arrival.user = .idle) := by
    unfold request? at arrived
    split at arrived
    · cases arrived
      rfl
    · cases arrived
  unfold arrival? at arrived
  split at arrived
  · obtain ⟨user, -, arrived⟩ := Option.bind_eq_some_iff.1 arrived
    exact requested arrived
  · exact requested arrived
  · split at arrived
    · exact requested arrived
    · cases arrived
  · obtain ⟨⟨user, work⟩, -, rfl⟩ := Option.map_eq_some_iff.1 arrived
    rfl
  · cases arrived

/-- What a moment is to the runs of all users. -/
inductive Kind (moment : Moment) : Prop where
  /-- Work arrives at a slot. -/
  | arriving (arrival : Arrival) (arrived : moment.arrival? = some arrival)
    (fresh : moment.system.strands[arrival.strand]? = none ∨
      ∃ user, moment.system.strands[arrival.strand]? = some (.lookingUp user))
    (untouched : ∀ connection channel, moment.touch? connection channel = none)
    (board : moment.next.board = (Run.start moment.system.board arrival.user arrival.work).1)
    (strand : moment.next.strands[arrival.strand]? = some (Strand.ofRunState arrival.failure
      (Run.start moment.system.board arrival.user arrival.work).2))
    (others : ∀ position, position ≠ arrival.strand →
      moment.next.strands[position]? = moment.system.strands[position]?)
    (undone : moment.system.undone =
      (if arrival.resumed then [(arrival.user, arrival.work)] else []) ++ moment.next.undone)
  /-- A run goes on after an answer. -/
  | answering (position : Nat) (spot : Spot) (passage : Passage) (run : Run)
    (failure : Option LookupError) (event : moment.event = .perform position spot passage)
    (strand : moment.system.strands[position]? = some (.running run failure))
    (next : moment.next = moment.system.put position
      ((run.perform moment.system.board passage spot).1,
        Strand.ofRunState failure (run.perform moment.system.board passage spot).2))
  /-- A run is given up. -/
  | abandoning (position : Nat) (kept : Bool) (run : Run) (failure : Option LookupError)
    (event : moment.event = .abandon position kept)
    (strand : moment.system.strands[position]? = some (.running run failure))
    (board : moment.next.board = (run.abandon moment.system.board).1)
    (strands : moment.next.strands = moment.system.strands.set position .dropped)
    (undone : moment.next.undone = moment.system.undone ++
      if kept then [(run.abandon moment.system.board).2] else [])
  /-- No run is concerned. -/
  | aside (marks : ∀ user, moment.marks user = [])
    (foreign : ∀ connection channel touch, moment.touch? connection channel = some touch →
      ∀ user, touch.servesUser user = false)
    (slots : moment.next.board.slots = moment.system.board.slots)
    (runs : ∀ (position : Nat) (run : Run) (failure : Option LookupError),
      moment.next.strands[position]? = some (Strand.running run failure) ↔
        moment.system.strands[position]? = some (Strand.running run failure))
    (ended : ∀ (position : Nat) (conclusion : Conclusion),
      moment.system.strands[position]? = some (Strand.ended conclusion) →
        moment.next.strands[position]? = some (Strand.ended conclusion))
    (undone : moment.next.undone = moment.system.undone)

/-- At a position where the strand changes, it was not a run, had not ended and does not become a
run. -/
private def Spares (moment : Moment) (position : Nat) : Prop :=
  moment.next.strands[position]? = moment.system.strands[position]? ∨
    (∀ strand : Strand, moment.system.strands[position]? = some strand →
      strand.runner? = none ∧ strand.isOver = false) ∧
    ∀ strand : Strand, moment.next.strands[position]? = some strand → strand.runner? = none

private theorem kind_of_spares
    (spares : ∀ position, moment.Spares position)
    (slots : moment.next.board.slots = moment.system.board.slots)
    (undone : moment.next.undone = moment.system.undone)
    (marks : ∀ user, moment.marks user = [])
    (foreign : ∀ connection channel touch, moment.touch? connection channel = some touch →
      ∀ user, touch.servesUser user = false) : moment.Kind := by
  refine .aside marks foreign slots (fun position run failure => ?_)
    (fun position conclusion ended => ?_) undone
  · rcases spares position with same | ⟨before, after⟩
    · rw [same]
    · constructor
      · intro running
        cases after _ running
      · intro running
        cases (before _ running).1
  · rcases spares position with same | ⟨before, after⟩
    · rw [same, ended]
    · cases (before _ ended).2

private theorem spares_of_append {strands : List Strand}
    (next : moment.next.strands = moment.system.strands ++ strands)
    (idle : ∀ strand ∈ strands, strand.runner? = none) (position : Nat) :
    moment.Spares position := by
  unfold Spares
  rw [next]
  by_cases old : position < moment.system.strands.length
  · exact .inl (List.getElem?_append_left old)
  · refine .inr ⟨fun strand found => ?_, fun strand found => ?_⟩
    · rw [List.getElem?_eq_none (by omega)] at found
      cases found
    · rw [List.getElem?_append_right (by omega)] at found
      exact idle strand (List.mem_of_getElem? found)

private theorem spares_of_set {before after : Strand} {at' : Nat}
    (next : moment.next.strands = moment.system.strands.set at' after)
    (found : moment.system.strands[at']? = some before)
    (either : after = before ∨
      before.runner? = none ∧ before.isOver = false ∧ after.runner? = none) (position : Nat) :
    moment.Spares position := by
  unfold Spares
  rw [next]
  by_cases here : at' = position
  · subst here
    have inside : at' < moment.system.strands.length := (List.getElem?_eq_some_iff.1 found).1
    rw [List.getElem?_set_self inside]
    rcases either with same | ⟨idle, going, idle'⟩
    · exact .inl (by rw [same, found])
    · refine .inr ⟨fun strand old => ?_, fun strand new => ?_⟩
      · rw [found] at old
        cases old
        exact ⟨idle, going⟩
      · cases new
        exact idle'
  · exact .inl (List.getElem?_set_ne here)

/-- Another strand that is no run takes the place of a strand. -/
private theorem kind_of_put {position : Nat} {strand : Strand} {moved : Switchboard × Strand}
    (found : moment.system.strands[position]? = some strand)
    (next : moment.next = moment.system.put position moved)
    (either : moved.2 = strand ∨
      strand.runner? = none ∧ strand.isOver = false ∧ moved.2.runner? = none)
    (slots : moved.1.slots = moment.system.board.slots)
    (marks : ∀ user, moment.marks user = [])
    (foreign : ∀ connection channel touch, moment.touch? connection channel = some touch →
      ∀ user, touch.servesUser user = false) : moment.Kind := by
  have strands : moment.next.strands = moment.system.strands.set position moved.2 := by
    rw [next]
    rfl
  refine kind_of_spares (spares_of_set strands found either) ?_ ?_ marks foreign
  · rw [next]
    exact slots
  · rw [next]
    rfl

private theorem foreign_of_idle {position : Nat} {spot : Spot} {passage : Passage}
    {strand : Strand} (event : moment.event = .perform position spot passage)
    (found : moment.system.strands[position]? = some strand) (idle : strand.runner? = none)
    (connection : Connection) (channel : Channel) (touch : Touch)
    (touched : moment.touch? connection channel = some touch) (user : UserKey) :
    touch.servesUser user = false := by
  obtain ⟨attempt, -, -, rfl⟩ := touch?_eq_some_of_perform event found touched
  simp [Touch.servesUser, idle]

/-- A strand that is no run and looks nobody up goes on. -/
private theorem kind_of_idle {position : Nat} {spot : Spot} {passage : Passage} {strand : Strand}
    (event : moment.event = .perform position spot passage)
    (found : moment.system.strands[position]? = some strand) (idle : strand.runner? = none)
    (known : ∀ user, strand ≠ .lookingUp user) : moment.Kind := by
  have silent : moment.arrival? = none := by
    simp only [arrival?, event]
    split <;> simp_all
  refine kind_of_put found (next_of_perform event found) ?_
    (Strand.slots_perform _ _ _ idle known) ?_ (foreign_of_idle event found idle)
  · cases finished : strand.isOver with
    | true =>
        rw [Strand.perform_of_isOver finished]
        exact .inl rfl
    | false => exact .inr ⟨idle, rfl, Strand.runner?_perform _ _ _ idle known⟩
  · intro user
    simp only [marks, silent, event, found]
    cases strand <;> first | rfl | cases idle

/-- A user who is looked up is turned into a request, which arrives if the user is online. -/
private theorem kind_of_lookingUp {position : Nat} {passage : Passage} {user : UserKey}
    (event : moment.event = .perform position .account passage)
    (found : moment.system.strands[position]? = some (.lookingUp user)) : moment.Kind := by
  have next : moment.next =
      moment.system.put position (Strand.resolve moment.system.board user) :=
    next_of_perform event found
  have untouched (connection : Connection) (channel : Channel) :
      moment.touch? connection channel = none := by
    simp [touch?, attempt?, event, found, Switchboard.attempt?]
  have inside : position < moment.system.strands.length := (List.getElem?_eq_some_iff.1 found).1
  rw [Strand.resolve_eq, Strand.submit_eq] at next
  generalize demanded : (moment.system.board.accounts user).demand user = demand at next
  cases online : moment.system.board.presence.isOnline user with
  | true =>
      simp only [Switchboard.submit, online, if_true] at next
      refine .arriving (moment.arrivalOf position user demand false) ?_ (.inr ⟨user, found⟩)
        untouched ?_ ?_ ?_ ?_
      · simp [arrival?, event, found, request?, online, demanded]
      · rw [next]
        rfl
      · rw [next]
        exact List.getElem?_set_self inside
      · intro other apart
        rw [next]
        exact List.getElem?_set_ne (Ne.symm apart)
      · rw [next]
        rfl
  | false =>
      simp only [Switchboard.submit, online, Bool.false_eq_true, if_false] at next
      refine kind_of_put found next (.inr ⟨rfl, rfl, ?_⟩) rfl ?_ ?_
      · cases demand.2 <;> rfl
      · intro other
        simp [marks, arrival?, event, found, request?, online]
      · intro connection channel touch touched
        rw [untouched] at touched
        cases touched

private theorem kind_of_perform {position : Nat} {spot : Spot} {passage : Passage}
    (event : moment.event = .perform position spot passage) : moment.Kind := by
  cases found : moment.system.strands[position]? with
  | none =>
      have next : moment.next = moment.system := by
        simp [Moment.next, event, System.step, found]
      have silent : moment.arrival? = none := by
        simp only [arrival?, event]
        split <;> simp_all
      refine kind_of_spares (fun _ => .inl (by rw [next])) (by rw [next]) (by rw [next]) ?_ ?_
      · intro user
        simp [marks, silent, event, found]
      · intro connection channel touch touched
        simp [touch?, attempt?, event, found] at touched
  | some strand =>
      cases strand with
      | running run failure =>
          exact .answering position spot passage run failure event found
            (next_of_perform event found)
      | lookingUp user =>
          cases spot with
          | account => exact kind_of_lookingUp event found
          | _ =>
              refine kind_of_put found (next_of_perform event found) (.inl rfl) rfl ?_
                (foreign_of_idle event found rfl)
              intro other
              simp [marks, arrival?, event, found]
      | _ => exact kind_of_idle event found rfl (by simp)

/-- Work that arrives with a new strand. -/
private theorem kind_of_arrival {arrival : Arrival} (arrived : moment.arrival? = some arrival)
    (untouched : ∀ connection channel, moment.touch? connection channel = none)
    (newest : arrival.strand = moment.system.strands.length)
    (board : moment.next.board = (Run.start moment.system.board arrival.user arrival.work).1)
    (strands : moment.next.strands = moment.system.strands ++ [Strand.ofRunState arrival.failure
      (Run.start moment.system.board arrival.user arrival.work).2])
    (undone : moment.system.undone =
      (if arrival.resumed then [(arrival.user, arrival.work)] else []) ++ moment.next.undone) :
    moment.Kind := by
  refine .arriving arrival arrived (.inl ?_) untouched board ?_ (fun position apart => ?_) undone
  · rw [newest]
    exact List.getElem?_eq_none (Nat.le_refl _)
  · rw [strands, newest]
    simp
  · rw [newest] at apart
    rw [strands]
    by_cases old : position < moment.system.strands.length
    · exact List.getElem?_append_left old
    · have beyond : moment.system.strands.length + 1 ≤ position := by omega
      rw [List.getElem?_eq_none (by simpa using beyond), List.getElem?_eq_none (by omega)]

/-- Work requested for a user arrives if the user is online. -/
private theorem kind_of_request (user : UserKey) (work : Work)
    (arrival? : moment.arrival? =
      moment.request? moment.system.strands.length user (work, none))
    (untouched : ∀ connection channel, moment.touch? connection channel = none)
    (offline : moment.arrival? = none → ∀ user, moment.marks user = [])
    (next : moment.next =
      { moment.system with
        board := (Strand.submit moment.system.board user work none).1
        strands := moment.system.strands ++
          [(Strand.submit moment.system.board user work none).2] }) : moment.Kind := by
  rw [Strand.submit_eq] at next
  cases online : moment.system.board.presence.isOnline user with
  | true =>
      simp only [Switchboard.submit, online, if_true] at next
      have arrived : moment.arrival? =
          some (moment.arrivalOf moment.system.strands.length user (work, none) false) := by
        simp [arrival?, request?, online]
      refine kind_of_arrival arrived untouched rfl ?_ ?_ ?_ <;>
        rw [next] <;> rfl
  | false =>
      simp only [Switchboard.submit, online, Bool.false_eq_true, if_false] at next
      have silent : moment.arrival? = none := by simp [arrival?, request?, online]
      refine kind_of_spares (spares_of_append (by rw [next]) ?_) (by rw [next]) (by rw [next])
        (offline silent) ?_
      · intro strand member
        cases List.mem_singleton.1 member
        rfl
      · intro connection channel touch touched
        rw [untouched] at touched
        cases touched

private theorem kind_of_submit {request : Request} (event : moment.event = .submit request) :
    moment.Kind := by
  have untouched (connection : Connection) (channel : Channel) :
      moment.touch? connection channel = none := by
    simp [touch?, attempt?, event]
  have offline (silent : moment.arrival? = none) (user : UserKey) : moment.marks user = [] := by
    simp [marks, silent, event]
  have foreign (connection : Connection) (channel : Channel) (touch : Touch)
      (touched : moment.touch? connection channel = some touch) (user : UserKey) :
      touch.servesUser user = false := by
    rw [untouched] at touched
    cases touched
  have aside (silent : moment.arrival? = none)
      (idle : ∀ strand ∈ (request.begin moment.system.board).2, strand.runner? = none)
      (slots : (request.begin moment.system.board).1.slots = moment.system.board.slots) :
      moment.Kind := by
    refine kind_of_spares (spares_of_append ?_ idle) ?_ ?_ (offline silent) foreign
    · simp [Moment.next, event, System.step, System.submit]
    · simpa [Moment.next, event, System.step, System.submit] using slots
    · simp [Moment.next, event, System.step, System.submit]
  cases request with
  | refresh principal =>
      cases known : principal.user with
      | none =>
          refine aside ?_ ?_ ?_
          · simp [arrival?, event, known]
          · simp [Request.begin, known]
          · simp [Request.begin, known]
      | some user =>
          refine kind_of_request user (.reconcile principal) ?_ untouched offline ?_
          · simp [arrival?, event, known]
          · simp [Moment.next, event, System.step, System.submit, Request.begin, known]
  | revokeUser user =>
      refine kind_of_request user .revoke ?_ untouched offline ?_
      · simp [arrival?, event]
      · simp [Moment.next, event, System.step, System.submit, Request.begin]
  | connect principal connection =>
      refine aside (by simp [arrival?, event]) ?_ ?_
      · simp only [Request.begin]
        split <;> simp
      · simp only [Request.begin]
        split <;> rfl
  | assign principal connection =>
      refine aside (by simp [arrival?, event]) ?_ ?_
      · simp only [Request.begin]
        split <;> simp
      · simp only [Request.begin]
        split <;> rfl
  | change audience =>
      refine aside (by simp [arrival?, event]) (fun strand member => ?_) rfl
      obtain ⟨user, -, rfl⟩ := List.mem_map.1 member
      rfl
  | revokeConnection user connection =>
      refine aside (by simp [arrival?, event]) (fun strand member => ?_) rfl
      cases List.mem_singleton.1 member
      exact Strand.runner?_ofLeaves _ _
  | route notice =>
      refine aside (by simp [arrival?, event]) ?_ ?_
      · simp only [Request.begin]
        split <;> simp
      · simp only [Request.begin]
        split <;> rfl
  | circulate notice user =>
      refine aside (by simp [arrival?, event]) (fun strand member => ?_) rfl
      cases List.mem_singleton.1 member
      exact Strand.runner?_ofCircular _

private theorem kind_of_abandon {position : Nat} {kept : Bool}
    (event : moment.event = .abandon position kept) : moment.Kind := by
  have silent : moment.arrival? = none := by simp [arrival?, event]
  have foreign (connection : Connection) (channel : Channel) (touch : Touch)
      (touched : moment.touch? connection channel = some touch) (user : UserKey) :
      touch.servesUser user = false := by
    simp [touch?, attempt?, event] at touched
  cases found : moment.system.strands[position]? with
  | none =>
      have next : moment.next = moment.system := by
        simp [Moment.next, event, System.step, found]
      refine kind_of_spares (fun _ => .inl (by rw [next])) (by rw [next]) (by rw [next]) ?_ foreign
      intro user
      simp [marks, silent, event, found]
  | some strand =>
      have still (after : Strand)
          (abandoned : strand.abandon moment.system.board = (moment.system.board, after, none))
          (either : after = strand ∨
            strand.runner? = none ∧ strand.isOver = false ∧ after.runner? = none)
          (idle : strand.runner? = none) : moment.Kind := by
        have next : moment.next = moment.system.put position (moment.system.board, after) := by
          simp [Moment.next, event, System.step, found, abandoned]
        refine kind_of_put found next either rfl (fun user => ?_) foreign
        simp only [marks, silent, event, found]
        cases strand <;> first | rfl | cases idle
      cases strand with
      | running run failure =>
          refine .abandoning position kept run failure event found ?_ ?_ ?_ <;>
            cases kept <;>
            simp [Moment.next, event, System.step, found, Strand.abandon, System.put]
      | ended conclusion => exact still _ rfl (.inl rfl) rfl
      | dropped => exact still _ rfl (.inl rfl) rfl
      | queued user => exact still _ rfl (.inr ⟨rfl, rfl, rfl⟩) rfl
      | lookingUp user => exact still _ rfl (.inr ⟨rfl, rfl, rfl⟩) rfl
      | assigning user assignment limited => exact still _ rfl (.inr ⟨rfl, rfl, rfl⟩) rfl
      | leaving batch expired => exact still _ rfl (.inr ⟨rfl, rfl, rfl⟩) rfl
      | routing notice => exact still _ rfl (.inr ⟨rfl, rfl, rfl⟩) rfl
      | circulating circular => exact still _ rfl (.inr ⟨rfl, rfl, rfl⟩) rfl

private theorem kind_of_resume (event : moment.event = .resume) : moment.Kind := by
  have untouched (connection : Connection) (channel : Channel) :
      moment.touch? connection channel = none := by
    simp [touch?, attempt?, event]
  cases undone : moment.system.undone with
  | nil =>
      have next : moment.next = moment.system := by
        simp [Moment.next, event, System.step, undone]
      refine kind_of_spares (fun _ => .inl (by rw [next])) (by rw [next]) (by rw [next]) ?_ ?_
      · intro user
        simp [marks, arrival?, event, undone]
      · intro connection channel touch touched
        rw [untouched] at touched
        cases touched
  | cons first rest =>
      obtain ⟨user, work⟩ := first
      have arrived : moment.arrival? = some
          (moment.arrivalOf moment.system.strands.length user (work, none) true) := by
        simp [arrival?, event, undone]
      refine kind_of_arrival arrived untouched rfl ?_ ?_ ?_ <;>
        simp [Moment.next, event, System.step, undone, arrivalOf]

/-- An event that neither concerns runs nor changes a strand that does. -/
private theorem kind_of_quiet (moment : Moment) (silent : moment.arrival? = none)
    (performs : ∀ position spot passage, moment.event ≠ .perform position spot passage)
    (abandons : ∀ position kept, moment.event ≠ .abandon position kept)
    (spares : ∀ position, moment.Spares position)
    (slots : moment.next.board.slots = moment.system.board.slots)
    (undone : moment.next.undone = moment.system.undone) : moment.Kind := by
  obtain ⟨system, event⟩ := moment
  refine kind_of_spares spares slots undone (fun user => ?_) ?_
  · simp only [marks, silent]
  · intro connection channel touch touched user
    cases event with
    | perform position spot passage => exact absurd rfl (performs position spot passage)
    | close other =>
        simp only [touch?] at touched
        split at touched
        · cases touched
          rfl
        · cases touched
    | _ => simp [touch?, attempt?] at touched

private theorem kind_of_visit {position : Nat} (event : moment.event = .visit position) :
    moment.Kind := by
  have silent (user : UserKey) : moment.marks user = [] := by simp [marks, arrival?, event]
  have foreign (connection : Connection) (channel : Channel) (touch : Touch)
      (touched : moment.touch? connection channel = some touch) (user : UserKey) :
      touch.servesUser user = false := by
    simp [touch?, attempt?, event] at touched
  have nowhere (next : moment.next = moment.system) : moment.Kind :=
    kind_of_spares (fun _ => .inl (by rw [next])) (by rw [next]) (by rw [next]) silent foreign
  cases found : moment.system.strands[position]? with
  | none => exact nowhere (by simp [Moment.next, event, System.step, found])
  | some strand =>
      cases strand with
      | queued user =>
          have idle : (Strand.visit moment.system.board user).runner? = none := by
            unfold Strand.visit
            split <;> rfl
          exact kind_of_put found (next_of_visit event found) (.inr ⟨rfl, rfl, idle⟩) rfl silent
            foreign
      | _ => exact nowhere (by simp [Moment.next, event, System.step, found])

private theorem kind_of_expire {position : Nat} (event : moment.event = .expire position) :
    moment.Kind := by
  have silent (user : UserKey) : moment.marks user = [] := by simp [marks, arrival?, event]
  have foreign (connection : Connection) (channel : Channel) (touch : Touch)
      (touched : moment.touch? connection channel = some touch) (user : UserKey) :
      touch.servesUser user = false := by
    simp [touch?, attempt?, event] at touched
  cases found : moment.system.strands[position]? with
  | none =>
      have next : moment.next = moment.system := by
        simp [Moment.next, event, System.step, found]
      exact kind_of_spares (fun _ => .inl (by rw [next])) (by rw [next]) (by rw [next]) silent
        foreign
  | some strand =>
      have either : (strand.expire moment.system.board).2 = strand ∨ strand.runner? = none ∧
          strand.isOver = false ∧ (strand.expire moment.system.board).2.runner? = none := by
        rw [Strand.runner?_expire]
        cases strand with
        | assigning user assignment limited => exact .inr ⟨rfl, rfl, rfl⟩
        | _ => exact .inl rfl
      refine kind_of_put found (next_of_expire event found) either ?_ silent foreign
      rw [Strand.expire_board]

private theorem kind_of_proceed {position : Nat} (event : moment.event = .proceed position) :
    moment.Kind := by
  have quiet := kind_of_quiet moment (by simp [arrival?, event]) (by simp [event])
    (by simp [event])
  have still (strands : moment.next.strands = moment.system.strands)
      (board : moment.next.board = moment.system.board)
      (undone : moment.next.undone = moment.system.undone) : moment.Kind :=
    quiet (fun _ => .inl (by rw [strands])) (by rw [board]) undone
  cases found : moment.system.workers[position]? with
  | none => refine still ?_ ?_ ?_ <;> simp [Moment.next, event, System.step, found]
  | some worker =>
      have next : moment.next = moment.system.proceed position worker := by
        simp [Moment.next, event, System.step, found]
      cases current : worker.current with
      | some strands =>
          cases finished : strands.all moment.system.isOver <;>
            refine still ?_ ?_ ?_ <;> simp [next, System.proceed, current, finished]
      | none =>
          cases queue : worker.queue with
          | nil =>
              cases receives : worker.isOpen <;>
                refine still ?_ ?_ ?_ <;> simp [next, System.proceed, current, queue, receives]
          | cons audience rest =>
              have strands : moment.next.strands = moment.system.strands ++
                  (audience.members moment.system.board.presence).map .queued := by
                simp [next, System.proceed, current, queue, System.submit, Request.begin]
              refine quiet (spares_of_append strands fun strand member => ?_) ?_ ?_
              · obtain ⟨user, -, rfl⟩ := List.mem_map.1 member
                rfl
              · rw [next, System.proceed_board]
              · simp [next, System.proceed, current, queue, System.submit, Request.begin]

/-- Every moment is of one of the four kinds. -/
theorem kind (moment : Moment) : moment.Kind := by
  obtain ⟨system, event⟩ := moment
  cases event with
  | submit request => exact kind_of_submit rfl
  | perform position spot passage => exact kind_of_perform rfl
  | abandon position kept => exact kind_of_abandon rfl
  | resume => exact kind_of_resume rfl
  | visit position => exact kind_of_visit rfl
  | expire position => exact kind_of_expire rfl
  | proceed position => exact kind_of_proceed rfl
  | _ => exact kind_of_quiet _ rfl nofun nofun (fun _ => .inl rfl) rfl rfl

end Moment
end ChannelMembership
