import ChannelMembership.Proofs.Switchboard.Ledger

/-!
# How a user is served

A user at rest has an idle slot, no run, and no work left undone.  From there on, whatever happens
to the system, at most one run serves the user at a time, and it does the work that arrived in turn.
The memberships of the connections that its pass found are in its care; those on which somebody else
had the last word, or on which the last operation failed, are disturbed.
-/

namespace ChannelMembership

/-- The last word on a membership was not an operation carried out by a run for the user. -/
def Disturbed (user : UserKey) : List Moment → Connection → Channel → Prop :=
  LastTouch fun touch => !touch.servesUser user

/-- What is not touched by a run for the user stays as it is or is disturbed. -/
theorem disturbed_concat_of_foreign (user : UserKey) (moments : List Moment) {moment : Moment}
    {connection : Connection} {channel : Channel}
    (foreign : ∀ touch, moment.touch? connection channel = some touch →
      touch.servesUser user = false) :
    (Disturbed user moments connection channel →
        Disturbed user (moments ++ [moment]) connection channel) ∧
      (Disturbed user (moments ++ [moment]) connection channel ∨
        moment.next.board.groups.isMember channel connection =
          moment.system.board.groups.isMember channel connection) :=
  lastTouch_concat_of_foreign fun touch touched => by simp [foreign touch touched]

/-- An answer at a spot of a run for the user keeps the other disturbances, and is one if it fails. -/
theorem disturbed_concat_of_answer (user : UserKey) (moments : List Moment) {moment : Moment}
    {position : Nat} {spot : Spot} {passage : Passage} {strand : Strand}
    (event : moment.event = .perform position spot passage)
    (found : moment.system.strands[position]? = some strand) :
    Excuses (moment.system.board.attempt? passage spot (strand.inquiry? spot))
      (Disturbed user moments) (Disturbed user (moments ++ [moment])) :=
  excuses_concat event found fun attempt failed => by simp [Touch.servesUser, failed]

namespace System

/-- No run serves the user. -/
def Unserved (system : System) (user : UserKey) : Prop :=
  ∀ (position : Nat) (strand : Strand), system.strands[position]? = some strand →
    strand.runner? ≠ some user

/-- Nothing is done for the user, and nothing is left to be done. -/
structure Resting (system : System) (user : UserKey) : Prop where
  /-- The slot is idle. -/
  idle : system.board.slots.slot user = .idle
  /-- No run serves the user. -/
  unserved : system.Unserved user
  /-- No work of the user is left undone. -/
  done : ∀ work, (user, work) ∉ system.undone

theorem resting_initial (directory : Directory) (limits : Limits) (link : Link) (user : UserKey) :
    (initial (Switchboard.initial directory limits link)).Resting user where
  idle := rfl
  unserved := nofun
  done := nofun

end System

namespace Strand

theorem runner?_eq_some {strand : Strand} {user : UserKey} :
    strand.runner? = some user ↔
      ∃ run failure, strand = .running run failure ∧ run.ticket.user = user := by
  constructor
  · intro serves
    cases strand with
    | running run failure => exact ⟨run, failure, rfl, Option.some.inj serves⟩
    | _ => cases serves
  · rintro ⟨run, failure, rfl, same⟩
    exact congrArg some same

theorem ofRunState_over_eq (failure : Option LookupError) (outcome : Outcome) :
    ∃ conclusion, ofRunState failure (.over outcome) = .ended conclusion := by
  cases failure <;> exact ⟨_, rfl⟩

end Strand

namespace Run

theorem runner?_advance (run : Run) (board : Switchboard) (failure : Option LookupError)
    {user : UserKey}
    (serves : (Strand.ofRunState failure (run.advance board).2).runner? = some user) :
    user = run.ticket.user := by
  have ends {outcome : Outcome}
      (serves : (Strand.ofRunState failure (.over outcome)).runner? = some user) :
      user = run.ticket.user := by
    cases failure <;> cases serves
  unfold advance at serves
  split at serves
  · cases serves
    rfl
  · simp only at serves
    split at serves
    · exact ends serves
    · split at serves
      · cases serves
        exact Slots.next_user
      · exact ends serves

theorem runner?_start (board : Switchboard) (work : Work) (failure : Option LookupError)
    {user other : UserKey}
    (serves : (Strand.ofRunState failure (start board other work).2).runner? = some user) :
    user = other := by
  unfold start at serves
  cases slot : board.slots.slot other with
  | running parked =>
      simp only [Slots.enter, slot] at serves
      cases failure <;> cases serves
  | idle =>
      simp only [Slots.enter, slot] at serves
      exact runner?_advance _ _ _ serves

end Run

namespace Moment

variable {moment : Moment} {user : UserKey}

theorem marks_of_arrival {arrival : Arrival} (arrived : moment.arrival? = some arrival)
    (mine : arrival.user = user) :
    moment.marks user =
      if arrival.opens then
        [.arrived arrival, .began arrival.work (moment.system.board.presence.connections user)]
      else [.arrived arrival] := by
  simp only [marks, arrived, mine, if_true]

/-- The answer to a run brings no work. -/
theorem arrival?_of_answer {position : Nat} {spot : Spot} {passage : Passage} {run : Run}
    {failure : Option LookupError} (event : moment.event = .perform position spot passage)
    (strand : moment.system.strands[position]? = some (.running run failure)) :
    moment.arrival? = none := by
  simp only [arrival?, event]
  split <;> simp_all

theorem marks_of_answer {position : Nat} {spot : Spot} {passage : Passage} {run : Run}
    {failure : Option LookupError} (event : moment.event = .perform position spot passage)
    (strand : moment.system.strands[position]? = some (.running run failure)) :
    moment.marks user =
      if run.ticket.user = user then
        match run.successor? moment.system.board passage spot with
        | some work => [.began work (moment.system.board.presence.connections user)]
        | none => []
      else [] := by
  have silent := arrival?_of_answer event strand
  cases more : run.successor? moment.system.board passage spot with
  | none => simp only [marks, silent, event, strand, more]
  | some work => simp only [marks, silent, event, strand, more]

theorem marks_of_abandon {position : Nat} {kept : Bool} {run : Run}
    {failure : Option LookupError} (event : moment.event = .abandon position kept)
    (strand : moment.system.strands[position]? = some (.running run failure)) :
    moment.marks user =
      if run.ticket.user = user then
        [.interrupted (run.abandon moment.system.board).2.2 kept]
      else [] := by
  simp [marks, arrival?, event, strand]

theorem arrival?_of_marks {arrival : Arrival}
    (arrived : arrival ∈ arrivals (moment.marks user)) :
    moment.arrival? = some arrival ∧ arrival.user = user := by
  cases known : moment.arrival? with
  | some other =>
      by_cases mine : other.user = user
      · rw [marks_of_arrival known mine] at arrived
        have same : arrival = other := by
          split at arrived <;> simpa using arrived
        rw [same]
        exact ⟨rfl, mine⟩
      · simp [marks, known, mine] at arrived
  | none =>
      simp only [marks, known] at arrived
      split at arrived
      · split at arrived
        · split at arrived
          · split at arrived <;> simp at arrived
          · simp at arrived
        · simp at arrived
      · split at arrived
        · split at arrived <;> simp at arrived
        · simp at arrived
      · simp at arrived

/-- What a moment does at which work arrives. -/
structure Arrives (moment : Moment) (arrival : Arrival) : Prop where
  /-- The work arrives. -/
  arrived : moment.arrival? = some arrival
  /-- Its strand is a new one, or the one that looks the user up. -/
  fresh : moment.system.strands[arrival.strand]? = none ∨
    ∃ user, moment.system.strands[arrival.strand]? = some (.lookingUp user)
  /-- No membership is touched. -/
  untouched : ∀ connection channel, moment.touch? connection channel = none
  /-- The work enters the slot. -/
  board : moment.next.board = (Run.start moment.system.board arrival.user arrival.work).1
  /-- Its strand goes on from there. -/
  strand : moment.next.strands[arrival.strand]? = some (Strand.ofRunState arrival.failure
    (Run.start moment.system.board arrival.user arrival.work).2)
  /-- The other strands stay as they are. -/
  others : ∀ position, position ≠ arrival.strand →
    moment.next.strands[position]? = moment.system.strands[position]?
  /-- Work that is resumed is left undone no more. -/
  undone : moment.system.undone =
    (if arrival.resumed then [(arrival.user, arrival.work)] else []) ++ moment.next.undone

/-- Whenever work arrives, it does so in this way. -/
theorem arrives_of_arrival? {arrival : Arrival} (arrived : moment.arrival? = some arrival) :
    moment.Arrives arrival := by
  cases moment.kind with
  | arriving other arrived' fresh untouched board strand others undone =>
      cases Option.some.inj (arrived.symm.trans arrived')
      exact ⟨arrived, fresh, untouched, board, strand, others, undone⟩
  | answering position spot passage run failure event strand next =>
      cases (arrival?_of_answer event strand).symm.trans arrived
  | abandoning position kept run failure event strand board strands undone =>
      simp [arrival?, event] at arrived
  | aside marks foreign slots runs stays undone =>
      have marked := marks_of_arrival arrived rfl
      rw [marks] at marked
      split at marked <;> cases marked

/-- The strand of work that arrives is no run. -/
theorem Arrives.ne_of_running {arrival : Arrival} (arrives : moment.Arrives arrival)
    {position : Nat} {strand : Strand} {user : UserKey}
    (found : moment.system.strands[position]? = some strand)
    (serves : strand.runner? = some user) : position ≠ arrival.strand := by
  rintro rfl
  rcases arrives.fresh with missing | ⟨looked, looking⟩
  · cases found.symm.trans missing
  · cases found.symm.trans looking
    cases serves

/-- A strand that has ended stays so. -/
theorem ended_next (moment : Moment) {position : Nat} {conclusion : Conclusion}
    (ended : moment.system.strands[position]? = some (.ended conclusion)) :
    moment.next.strands[position]? = some (.ended conclusion) := by
  cases moment.kind with
  | arriving arrival arrived fresh untouched board strand others undone =>
      rw [others position, ended]
      rintro rfl
      rw [ended] at fresh
      rcases fresh with missing | ⟨user, looking⟩
      · cases missing
      · cases looking
  | answering other spot passage run failure event strand next =>
      have apart : other ≠ position := by
        rintro rfl
        rw [ended] at strand
        cases strand
      rw [next]
      exact (List.getElem?_set_ne apart).trans ended
  | abandoning other kept run failure event strand board strands undone =>
      have apart : other ≠ position := by
        rintro rfl
        rw [ended] at strand
        cases strand
      rw [strands]
      exact (List.getElem?_set_ne apart).trans ended
  | aside marks foreign slots runs stays undone => exact stays position conclusion ended

/-- The strand of work that finds the slot taken ends at once. -/
theorem coalesced_next {arrival : Arrival} (arrived : arrival ∈ arrivals (moment.marks user))
    (parked : arrival.opens = false) :
    moment.next.strands[arrival.strand]? =
      some (Strand.ofRunState arrival.failure (.over .coalesced)) := by
  obtain ⟨known, mine⟩ := arrival?_of_marks arrived
  have strand := (arrives_of_arrival? known).strand
  have taken := opens_of_arrival? known
  rw [parked] at taken
  cases slot : moment.system.board.slots.slot arrival.user with
  | idle => simp [slot] at taken
  | running waiting => rwa [Run.start_of_running _ slot] at strand

/-- What is resumed was left undone. -/
theorem undone_of_resumed {arrival : Arrival} (arrived : arrival ∈ arrivals (moment.marks user))
    (resumed : arrival.resumed = true) : (user, arrival.work) ∈ moment.system.undone := by
  obtain ⟨known, rfl⟩ := arrival?_of_marks arrived
  rw [(arrives_of_arrival? known).undone, resumed]
  exact List.mem_cons_self

/-- Work is left undone only by a run that is given up. -/
theorem undone_of_next (moment : Moment) {work : Work} (left : (user, work) ∈ moment.next.undone) :
    (user, work) ∈ moment.system.undone ∨ ∃ kept, .interrupted work kept ∈ moment.marks user := by
  cases moment.kind with
  | arriving arrival arrived fresh untouched board strand others undone =>
      rw [undone]
      exact .inl (List.mem_append_right _ left)
  | answering position spot passage run failure event strand next =>
      rw [next] at left
      exact .inl left
  | abandoning position kept run failure event strand board strands undone =>
      rw [undone] at left
      rcases List.mem_append.1 left with before | now
      · exact .inl before
      · refine .inr ⟨kept, ?_⟩
        cases kept with
        | false => cases now
        | true =>
            have given := List.mem_singleton.1 now
            have mine : run.ticket.user = user := by
              have owner := congrArg Prod.fst given
              simp only [Run.abandon, Slots.abandon] at owner
              split at owner <;> exact owner.symm
            rw [marks_of_abandon event strand, if_pos mine, ← given]
            exact List.mem_singleton.2 rfl
  | aside marks foreign slots runs stays undone =>
      rw [undone] at left
      exact .inl left

/-- A moment that passes the run of a user by. -/
structure Bypasses (user : UserKey) (moment : Moment) : Prop where
  /-- There is nothing to enter in the ledger. -/
  marks : moment.marks user = []
  /-- What is touched is not touched by a run for the user. -/
  foreign : ∀ connection channel touch, moment.touch? connection channel = some touch →
    touch.servesUser user = false
  /-- The slot stays as it is. -/
  slot : moment.next.board.slots.slot user = moment.system.board.slots.slot user
  /-- The runs for the user are the same as before. -/
  runs : ∀ (position : Nat) (strand : Strand), strand.runner? = some user →
    (moment.next.strands[position]? = some strand ↔
      moment.system.strands[position]? = some strand)
  /-- Work left undone stays so. -/
  undone : ∀ work, (user, work) ∈ moment.next.undone ↔ (user, work) ∈ moment.system.undone

/-- Work that arrives for somebody else passes the run of a user by. -/
theorem Arrives.bypasses {arrival : Arrival} (arrives : moment.Arrives arrival)
    (apart : user ≠ arrival.user) : moment.Bypasses user where
  marks := by simp [Moment.marks, arrives.arrived, apart.symm]
  foreign := by
    intro connection channel touch touched
    rw [arrives.untouched] at touched
    cases touched
  slot := by
    rw [arrives.board]
    exact Run.slot_start_of_ne _ _ apart
  runs := by
    intro position found serves
    by_cases here : position = arrival.strand
    · subst here
      constructor
      · intro after
        rw [arrives.strand] at after
        cases after
        exact absurd (Run.runner?_start _ _ _ serves) apart
      · exact fun before => absurd rfl (arrives.ne_of_running before serves)
    · rw [arrives.others position here]
  undone := by
    intro work
    rw [arrives.undone]
    split <;> simp [apart]

private theorem bypasses_of_answer {position : Nat} {spot : Spot} {passage : Passage} {run : Run}
    {failure : Option LookupError} (event : moment.event = .perform position spot passage)
    (strand : moment.system.strands[position]? = some (.running run failure))
    (next : moment.next = moment.system.put position
      ((run.perform moment.system.board passage spot).1,
        Strand.ofRunState failure (run.perform moment.system.board passage spot).2))
    (apart : run.ticket.user ≠ user) : moment.Bypasses user where
  marks := by rw [marks_of_answer event strand, if_neg apart]
  foreign := by
    intro connection channel touch touched
    obtain ⟨attempt, -, -, rfl⟩ := touch?_eq_some_of_perform event strand touched
    simp [Touch.servesUser, apart]
  slot := by
    rw [next]
    exact Run.slot_perform_of_ne _ _ _ _ apart.symm
  runs := by
    intro other found serves
    have inside := (List.getElem?_eq_some_iff.1 strand).1
    rw [next]
    by_cases here : position = other
    · subst here
      simp only [System.put]
      rw [List.getElem?_set_self inside, strand]
      constructor
      · intro after
        cases after
        exact absurd (Run.runner?_advance _ _ _ serves) apart.symm
      · intro before
        cases before
        exact absurd (Option.some.inj serves) apart
    · simp only [System.put]
      rw [List.getElem?_set_ne here]
  undone := by
    intro work
    rw [next]
    rfl

private theorem bypasses_of_abandon {position : Nat} {kept : Bool} {run : Run}
    {failure : Option LookupError} (event : moment.event = .abandon position kept)
    (strand : moment.system.strands[position]? = some (.running run failure))
    (board : moment.next.board = (run.abandon moment.system.board).1)
    (strands : moment.next.strands = moment.system.strands.set position .dropped)
    (undone : moment.next.undone = moment.system.undone ++
      if kept then [(run.abandon moment.system.board).2] else [])
    (apart : run.ticket.user ≠ user) : moment.Bypasses user where
  marks := by rw [marks_of_abandon event strand, if_neg apart]
  foreign := by
    intro connection channel touch touched
    simp [touch?, attempt?, event] at touched
  slot := by
    rw [board]
    exact Slots.slot_abandon_of_ne apart.symm
  runs := by
    intro other found serves
    have inside := (List.getElem?_eq_some_iff.1 strand).1
    rw [strands]
    by_cases here : position = other
    · subst here
      rw [List.getElem?_set_self inside, strand]
      constructor
      · intro after
        cases after
        cases serves
      · intro before
        cases before
        exact absurd (Option.some.inj serves) apart
    · rw [List.getElem?_set_ne here]
  undone := by
    intro work
    have given : (run.abandon moment.system.board).2.1 = run.ticket.user := by
      simp only [Run.abandon, Slots.abandon]
      split <;> rfl
    have other : (user, work) ≠ (run.abandon moment.system.board).2 := by
      intro same
      rw [← same] at given
      exact apart given.symm
    rw [undone]
    cases kept <;> simp [other]

end Moment

/-- The run that stands for a user: it was opened by some work, and it is at some work or was when it
ended. -/
structure Standing (user : UserKey) (system : System) (moments : List Moment) (opener : Arrival)
    (state : RunState) (work : Work) (found : List Connection) (parked : Option Work) : Prop where
  /-- The strand of the opener is the run. -/
  strand : system.strands[opener.strand]? = some (Strand.ofRunState opener.failure state)
  /-- It is the only run for the user. -/
  alone : ∀ (position : Nat) (strand : Strand), system.strands[position]? = some strand →
    strand.runner? = some user → position = opener.strand
  /-- It stands, with the memberships in its care except for those disturbed. -/
  stands : state.Stands system.board (Disturbed user moments) user work found parked
  /-- The opener is the last work that found the slot idle. -/
  opened : ((arrivals (ledger user moments)).filter Arrival.opens).getLast? = some opener
  /-- The last pass is the present one. -/
  pass : (passes (ledger user moments)).getLast? = some (work, found)
  /-- The newest work is parked, or else it is the work of the present pass. -/
  newest : ∃ arrival, (arrivals (ledger user moments)).getLast? = some arrival ∧
    arrival.work = parked.getD work
  /-- Work is done in turn, and what is parked waits. -/
  turn : InTurn (ledger user moments) parked

/-- How a user stands after a history that began at rest. -/
inductive Served (user : UserKey) (system : System) (moments : List Moment) : Prop where
  /-- Nothing has happened to the user. -/
  | untouched (idle : system.board.slots.slot user = .idle) (unserved : system.Unserved user)
    (nothing : ledger user moments = [])
  /-- The last run was given up, and its work is undone if it was kept. -/
  | interrupted {earlier : List Mark} {work : Work} {kept : Bool}
    (idle : system.board.slots.slot user = .idle) (unserved : system.Unserved user)
    (last : ledger user moments = earlier ++ [.interrupted work kept])
    (undone : kept = true → (user, work) ∈ system.undone)
    (turn : InTurn (ledger user moments) none)
  /-- A run stands. -/
  | standing {opener : Arrival} {state : RunState} {work : Work} {found : List Connection}
    {parked : Option Work}
    (standing : Standing user system moments opener state work found parked)

namespace Served

variable {user : UserKey} {moments : List Moment} {moment : Moment}

/-- What passes the run of a user by changes nothing for the user, except that it may disturb
memberships. -/
theorem bypass (served : Served user moment.system moments) (bypasses : moment.Bypasses user) :
    Served user moment.next (moments ++ [moment]) := by
  have ledger_eq : ledger user (moments ++ [moment]) = ledger user moments := by
    rw [ledger_concat, bypasses.marks, List.append_nil]
  have unserved (before : moment.system.Unserved user) : moment.next.Unserved user := by
    intro position strand found serves
    exact before position strand ((bypasses.runs position strand serves).1 found) serves
  cases served with
  | untouched idle free nothing =>
      exact .untouched (bypasses.slot.trans idle) (unserved free) (ledger_eq.trans nothing)
  | interrupted idle free last undone turn =>
      refine .interrupted (bypasses.slot.trans idle) (unserved free) (ledger_eq.trans last) ?_ ?_
      · exact fun kept => (bypasses.undone _).2 (undone kept)
      · rwa [ledger_eq]
  | @standing opener state work found parked standing =>
      have foreign (connection : Connection) (channel : Channel) :=
        disturbed_concat_of_foreign user moments (bypasses.foreign connection channel)
      have after : Standing user moment.next (moments ++ [moment]) opener state work found
          parked := by
        refine ⟨?_, ?_, ?_, ?_, ?_, ?_, ?_⟩
        · cases state with
          | active run =>
              have mine : run.ticket.user = user := by
                cases standing.stands
                rfl
              exact (bypasses.runs opener.strand (.running run opener.failure)
              (congrArg some mine)).2 standing.strand
          | «over» outcome =>
              obtain ⟨conclusion, ended⟩ := Strand.ofRunState_over_eq opener.failure outcome
              have strand := standing.strand
              rw [ended] at strand ⊢
              exact moment.ended_next strand
        · intro position strand found serves
          exact standing.alone position strand ((bypasses.runs position strand serves).1 found) serves
        · exact standing.stands.mono moment.directory_next bypasses.slot
            (fun connection _ channel => (foreign connection channel).1)
            (fun connection _ channel => (foreign connection channel).2)
        · rw [ledger_eq]
          exact standing.opened
        · rw [ledger_eq]
          exact standing.pass
        · rw [ledger_eq]
          exact standing.newest
        · rw [ledger_eq]
          exact standing.turn
      exact .standing after

/-- Nobody runs for a user whose slot is idle. -/
theorem unserved_of_idle {system : System} (served : Served user system moments)
    (idle : system.board.slots.slot user = .idle) : system.Unserved user := by
  cases served with
  | untouched idle unserved nothing => exact unserved
  | interrupted idle unserved last undone turn => exact unserved
  | standing standing =>
      cases standing.stands with
      | active held going serves =>
          rw [idle] at held
          cases held
      | concluded idle closes settled =>
          intro position strand found serves
          have strand_eq := standing.strand
          rw [← standing.alone position strand found serves, found] at strand_eq
          obtain ⟨conclusion, ended⟩ := Strand.ofRunState_over_eq _ _
          rw [Option.some.inj strand_eq, ended] at serves
          cases serves

/-- The slot is idle unless somebody runs for the user. -/
theorem idle_of_unserved {system : System} (served : Served user system moments)
    (unserved : system.Unserved user) : system.board.slots.slot user = .idle := by
  cases served with
  | untouched idle _ nothing => exact idle
  | interrupted idle _ last undone turn => exact idle
  | standing standing =>
      have strand := standing.strand
      cases standing.stands with
      | active held going serves => exact absurd rfl (unserved _ _ strand)
      | concluded idle closes settled => exact idle

/-- Nothing waits while the slot is idle. -/
theorem inTurn_of_idle {system : System} (served : Served user system moments)
    (idle : system.board.slots.slot user = .idle) : InTurn (ledger user moments) none := by
  cases served with
  | untouched idle unserved nothing =>
      rw [nothing]
      exact .nil
  | interrupted idle unserved last undone turn => exact turn
  | standing standing =>
      have turn := standing.turn
      cases standing.stands with
      | active held going serves =>
          rw [idle] at held
          cases held
      | concluded idle closes settled => exact turn

/-- Work that finds the slot idle opens it and begins its pass. -/
theorem opening (served : Served user moment.system moments) {arrival : Arrival}
    (arrives : moment.Arrives arrival) (mine : arrival.user = user)
    (idle : moment.system.board.slots.slot user = .idle) :
    Served user moment.next (moments ++ [moment]) := by
  have board := arrives.board
  have strand := arrives.strand
  rw [mine] at board strand
  have opens : arrival.opens = true := by
    rw [Moment.opens_of_arrival? arrives.arrived, mine, idle]
    rfl
  have ledger_eq : ledger user (moments ++ [moment]) = ledger user moments ++
      [.arrived arrival, .began arrival.work (moment.system.board.presence.connections user)] := by
    rw [ledger_concat, Moment.marks_of_arrival arrives.arrived mine, if_pos opens]
  have unserved := served.unserved_of_idle idle
  have stands := Run.stands_start (Disturbed user (moments ++ [moment])) arrival.work idle
  rw [← board] at stands
  have after : Standing user moment.next (moments ++ [moment]) arrival
      (Run.start moment.system.board user arrival.work).2 arrival.work
      (moment.system.board.presence.connections user) none := by
    refine ⟨strand, ?_, stands, ?_, ?_, ⟨arrival, ?_, rfl⟩, ?_⟩
    · intro position found strand_eq serves
      apply Decidable.byContradiction
      intro apart
      rw [arrives.others position apart] at strand_eq
      exact unserved position found strand_eq serves
    · simp [ledger_eq, opens]
    · simp [ledger_eq]
    · simp [ledger_eq]
    · have turn := ((served.inTurn_of_idle idle).arrived arrival).began
        (moment.system.board.presence.connections user)
      rw [ledger_eq]
      simpa using turn
  exact .standing after

/-- Work that finds the slot taken is parked there. -/
theorem parking (served : Served user moment.system moments) {arrival : Arrival}
    (arrives : moment.Arrives arrival) (mine : arrival.user = user) {parked : Option Work}
    (held : moment.system.board.slots.slot user = .running parked) :
    Served user moment.next (moments ++ [moment]) := by
  have board := arrives.board
  have strand := arrives.strand
  rw [mine] at board strand
  have opens : arrival.opens = false := by
    rw [Moment.opens_of_arrival? arrives.arrived, mine, held]
    rfl
  have ledger_eq : ledger user (moments ++ [moment]) =
      ledger user moments ++ [.arrived arrival] := by
    rw [ledger_concat, Moment.marks_of_arrival arrives.arrived mine, opens]
    rfl
  rw [Run.start_of_running _ held] at board strand
  cases served with
  | untouched idle unserved nothing =>
      rw [idle] at held
      cases held
  | interrupted idle unserved last undone turn =>
      rw [idle] at held
      cases held
  | @standing opener state work found waiting standing =>
      have stands := standing.stands
      cases stands with
      | concluded idle closes settled =>
          rw [idle] at held
          cases held
      | @active _ pass held' going serves =>
          have apart : opener.strand ≠ arrival.strand :=
            arrives.ne_of_running standing.strand rfl
          have foreign (connection : Connection) (channel : Channel) :=
            disturbed_concat_of_foreign user moments fun touch touched => by
              rw [arrives.untouched connection channel] at touched
              cases touched
          have after : Standing user moment.next (moments ++ [moment]) opener
              (.active ⟨⟨user, true⟩, work, pass⟩) work found (some arrival.work) := by
            refine ⟨?_, ?_, ?_, ?_, ?_, ⟨arrival, ?_, rfl⟩, ?_⟩
            · exact (arrives.others opener.strand apart).trans standing.strand
            · intro position found strand_eq serves
              by_cases here : position = arrival.strand
              · rw [here, strand] at strand_eq
                obtain ⟨conclusion, ended⟩ :=
                  Strand.ofRunState_over_eq arrival.failure .coalesced
                rw [← Option.some.inj strand_eq, ended] at serves
                cases serves
              · rw [arrives.others position here] at strand_eq
                exact standing.alone position found strand_eq serves
            · refine .active ?_ going ?_
              · rw [board]
                exact Slots.slot_set_self _ _ _
              · rw [moment.directory_next]
                exact serves.mono (fun connection _ channel => (foreign connection channel).1)
                  (fun connection _ channel => (foreign connection channel).2)
            · simpa [ledger_eq, opens] using standing.opened
            · simpa [ledger_eq] using standing.pass
            · simp [ledger_eq]
            · rw [ledger_eq]
              exact standing.turn.arrived arrival
          exact .standing after

/-- A run for the user is the one that stands. -/
theorem active_of_running {system : System} (served : Served user system moments) {position : Nat}
    {run : Run} {failure : Option LookupError}
    (strand : system.strands[position]? = some (.running run failure))
    (mine : run.ticket.user = user) :
    ∃ opener work found parked, opener.strand = position ∧ opener.failure = failure ∧
      Standing user system moments opener (.active run) work found parked := by
  have serves : (Strand.running run failure).runner? = some user := congrArg some mine
  cases served with
  | untouched idle unserved nothing => exact absurd serves (unserved _ _ strand)
  | interrupted idle unserved last undone turn => exact absurd serves (unserved _ _ strand)
  | @standing opener state work found parked standing =>
      have here : position = opener.strand := standing.alone _ _ strand serves
      subst here
      have same := standing.strand.symm.trans strand
      cases state with
      | «over» outcome =>
          obtain ⟨conclusion, ended⟩ := Strand.ofRunState_over_eq opener.failure outcome
          rw [ended] at same
          cases same
      | active other =>
          cases Option.some.inj same
          exact ⟨opener, work, found, parked, rfl, rfl, standing⟩

/-- A run for the user goes on with its pass, with parked work, or is over. -/
theorem answering (served : Served user moment.system moments) {position : Nat} {spot : Spot}
    {passage : Passage} {run : Run} {failure : Option LookupError}
    (event : moment.event = .perform position spot passage)
    (strand : moment.system.strands[position]? = some (.running run failure))
    (next : moment.next = moment.system.put position
      ((run.perform moment.system.board passage spot).1,
        Strand.ofRunState failure (run.perform moment.system.board passage spot).2))
    (mine : run.ticket.user = user) : Served user moment.next (moments ++ [moment]) := by
  obtain ⟨opener, work, found, parked, rfl, rfl, standing⟩ :=
    served.active_of_running strand mine
  cases standing.stands with
  | @active _ pass held going serving =>
      have inside := (List.getElem?_eq_some_iff.1 strand).1
      have board : moment.next.board =
          (Run.perform ⟨⟨user, true⟩, work, pass⟩ moment.system.board passage spot).1 := by
        rw [next]
        rfl
      have strand' : moment.next.strands[opener.strand]? = some (Strand.ofRunState
          opener.failure
          (Run.perform ⟨⟨user, true⟩, work, pass⟩ moment.system.board passage spot).2) := by
        rw [next]
        exact List.getElem?_set_self inside
      have alone (other : Nat) (found : Strand)
          (strand_eq : moment.next.strands[other]? = some found)
          (serves : found.runner? = some user) : other = opener.strand := by
        apply Decidable.byContradiction
        intro apart
        apply apart
        rw [next] at strand_eq
        refine standing.alone other found ?_ serves
        rwa [← List.getElem?_set_ne (Ne.symm apart)]
      have marks : moment.marks user = _ := Moment.marks_of_answer event strand
      rw [if_pos rfl] at marks
      cases more : Run.successor? ⟨⟨user, true⟩, work, pass⟩ moment.system.board passage
          spot with
      | none =>
          have ledger_eq : ledger user (moments ++ [moment]) = ledger user moments := by
            rw [ledger_concat, marks, more, List.append_nil]
          have stands := Run.stands_perform held serving
            (disturbed_concat_of_answer user moments event strand) more
          rw [← board] at stands
          have after : Standing user moment.next (moments ++ [moment]) opener
              (Run.perform ⟨⟨user, true⟩, work, pass⟩ moment.system.board passage spot).2
              work found parked := by
            refine ⟨strand', alone, stands, ?_, ?_, ?_, ?_⟩
            · rw [ledger_eq]
              exact standing.opened
            · rw [ledger_eq]
              exact standing.pass
            · rw [ledger_eq]
              exact standing.newest
            · rw [ledger_eq]
              exact standing.turn
          exact .standing after
      | some further =>
          have ledger_eq : ledger user (moments ++ [moment]) = ledger user moments ++
              [.began further (moment.system.board.presence.connections user)] := by
            rw [ledger_concat, marks, more]
          obtain ⟨waiting, stands⟩ := Run.stands_perform_next
            (Disturbed user (moments ++ [moment])) held more
          subst waiting
          rw [← board] at stands
          have after : Standing user moment.next (moments ++ [moment]) opener
              (Run.perform ⟨⟨user, true⟩, work, pass⟩ moment.system.board passage spot).2
              further (moment.system.board.presence.connections user) none := by
            refine ⟨strand', alone, stands, ?_, ?_, ?_, ?_⟩
            · simpa [ledger_eq] using standing.opened
            · simp [ledger_eq]
            · simpa [ledger_eq] using standing.newest
            · rw [ledger_eq]
              exact standing.turn.began _
          exact .standing after

/-- A run for the user that is given up hands out the newest work. -/
theorem abandoning (served : Served user moment.system moments) {position : Nat} {kept : Bool}
    {run : Run} {failure : Option LookupError} (event : moment.event = .abandon position kept)
    (strand : moment.system.strands[position]? = some (.running run failure))
    (board : moment.next.board = (run.abandon moment.system.board).1)
    (strands : moment.next.strands = moment.system.strands.set position .dropped)
    (undone : moment.next.undone = moment.system.undone ++
      if kept then [(run.abandon moment.system.board).2] else [])
    (mine : run.ticket.user = user) : Served user moment.next (moments ++ [moment]) := by
  have ledger_eq : ledger user (moments ++ [moment]) = ledger user moments ++
      [.interrupted (run.abandon moment.system.board).2.2 kept] := by
    rw [ledger_concat, Moment.marks_of_abandon event strand, if_pos mine]
  obtain ⟨opener, work, found, parked, rfl, rfl, standing⟩ :=
    served.active_of_running strand mine
  have inside := (List.getElem?_eq_some_iff.1 strand).1
  cases standing.stands with
  | active held going serving =>
      refine .interrupted ?_ ?_ ledger_eq ?_ ?_
      · rw [board]
        simp [Run.abandon, Slots.abandon]
      · intro other found strand_eq serves
        rw [strands] at strand_eq
        by_cases here : opener.strand = other
        · subst here
          rw [List.getElem?_set_self inside] at strand_eq
          cases strand_eq
          cases serves
        · rw [List.getElem?_set_ne here] at strand_eq
          exact here (standing.alone other found strand_eq serves).symm
      · intro keeps
        rw [undone, if_pos keeps]
        exact List.mem_append_right _ (List.mem_singleton.2 rfl)
      · rw [ledger_eq]
        exact standing.turn.interrupted _ _

/-- How a user stands is kept up by whatever happens. -/
theorem next (moment : Moment) (served : Served user moment.system moments) :
    Served user moment.next (moments ++ [moment]) := by
  cases moment.kind with
  | arriving arrival arrived fresh untouched board strand others undone =>
      have arrives := Moment.arrives_of_arrival? arrived
      by_cases mine : arrival.user = user
      · cases slot : moment.system.board.slots.slot user with
        | idle => exact served.opening arrives mine slot
        | running parked => exact served.parking arrives mine slot
      · exact served.bypass (arrives.bypasses (Ne.symm mine))
  | answering position spot passage run failure event strand next =>
      by_cases mine : run.ticket.user = user
      · exact served.answering event strand next mine
      · exact served.bypass (Moment.bypasses_of_answer event strand next mine)
  | abandoning position kept run failure event strand board strands undone =>
      by_cases mine : run.ticket.user = user
      · exact served.abandoning event strand board strands undone mine
      · exact served.bypass (Moment.bypasses_of_abandon event strand board strands undone mine)
  | aside marks foreign slots runs stays undone =>
      refine served.bypass ⟨marks user, ?_, ?_, ?_, ?_⟩
      · exact fun connection channel touch touched => foreign connection channel touch touched user
      · rw [slots]
      · intro position strand serves
        obtain ⟨run, failure, rfl, -⟩ := Strand.runner?_eq_some.1 serves
        exact runs position run failure
      · intro work
        rw [undone]

theorem goOn {system : System} (served : Served user system moments) (events : List Event) :
    Served user (system.run events) (moments ++ system.moments events) := by
  induction events generalizing system moments with
  | nil => simpa [System.moments] using served
  | cons event rest induction =>
      have later := induction (served.next ⟨system, event⟩)
      rwa [List.append_assoc] at later

/-- A user who was at rest is served, whatever happened since. -/
theorem run {system : System} (resting : system.Resting user) (events : List Event) :
    Served user (system.run events) (system.moments events) := by
  have begun : Served user system [] := .untouched resting.idle resting.unserved rfl
  exact begun.goOn events

/-- A run that is given up hands out the work that arrived last. -/
theorem newest_of_interrupted (served : Served user moment.system moments) {work : Work}
    {kept : Bool} (interrupted : .interrupted work kept ∈ moment.marks user) :
    ∃ arrival, (arrivals (ledger user moments)).getLast? = some arrival ∧ arrival.work = work := by
  obtain ⟨position, event⟩ := Moment.event_of_interrupted interrupted
  simp only [Moment.marks, Moment.arrival?, event] at interrupted
  split at interrupted
  · rename_i run failure strand
    split at interrupted
    · rename_i mine
      obtain ⟨opener, present, found, parked, rfl, rfl, standing⟩ :=
        served.active_of_running strand mine
      obtain ⟨arrival, last, newest⟩ := standing.newest
      refine ⟨arrival, last, newest.trans ?_⟩
      cases standing.stands with
      | active held going serving =>
          simpa [Run.abandon, Slots.abandon, held] using (List.mem_singleton.1 interrupted).symm
    · cases interrupted
  · cases interrupted

/-- While the slot is idle, the last run is over, unless nothing has happened or it was given up. -/
theorem standing_of_idle {system : System} (served : Served user system moments)
    (idle : system.board.slots.slot user = .idle) (nonempty : ledger user moments ≠ [])
    (completed : ∀ work kept, (ledger user moments).getLast? = some (.interrupted work kept) →
      ¬(kept = true → (user, work) ∈ system.undone)) :
    ∃ opener outcome work found,
      Standing user system moments opener (.over outcome) work found none := by
  cases served with
  | untouched idle unserved nothing => exact absurd nothing nonempty
  | @interrupted earlier work kept idle unserved last undone turn =>
      exact absurd undone (completed work kept (by simp [last]))
  | @standing opener state work found parked standing =>
      have stands := standing.stands
      cases stands with
      | active held going serves =>
          rw [idle] at held
          cases held
      | concluded idle closes settled => exact ⟨opener, _, work, found, standing⟩

end Served

namespace Standing

variable {user : UserKey} {system : System} {moments : List Moment} {opener : Arrival}
  {outcome : Outcome} {work : Work} {found : List Connection}

theorem closes
    (standing : Standing user system moments opener (.over outcome) work found none) :
    outcome.Closes system.board.directory user work found := by
  cases standing.stands with
  | concluded idle closes settled => exact closes

theorem settled
    (standing : Standing user system moments opener (.over outcome) work found none) :
    work.Settled system.board.directory system.board.groups (Disturbed user moments) found := by
  cases standing.stands with
  | concluded idle closes settled => exact settled

end Standing

/-- Work that found the slot taken is reported as taken over by the work under way. -/
theorem coalesced_run (system : System) (user : UserKey) (events : List Event) {arrival : Arrival}
    (arrived : arrival ∈ arrivals (ledger user (system.moments events)))
    (parked : arrival.opens = false) :
    (system.run events).strands[arrival.strand]? =
      some (Strand.ofRunState arrival.failure (.over .coalesced)) := by
  induction events using List.reverseRecOn with
  | nil => cases arrived
  | append_singleton events event induction =>
      rw [System.moments_concat, ledger_concat, arrivals_append] at arrived
      rw [System.run_concat]
      rcases List.mem_append.1 arrived with earlier | now
      · obtain ⟨conclusion, ended⟩ := Strand.ofRunState_over_eq arrival.failure .coalesced
        have before := induction earlier
        rw [ended] at before ⊢
        exact Moment.ended_next ⟨system.run events, event⟩ before
      · exact Moment.coalesced_next now parked

end ChannelMembership
