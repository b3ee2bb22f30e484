import ChannelMembership.Proofs.NewestWork

/-!
# Single flight

The slot of a user is taken exactly while a run for the user is in flight, and at most one run is.
Work that arrives meanwhile is parked in that slot and answered at once; the slots and runs of other
users do not notice.
-/

namespace ChannelMembership

/-- A run for the user is in flight. -/
def System.InFlight (system : System) (user : UserKey) : Prop :=
  ∃ (position : Nat) (strand : Strand),
    system.strands[position]? = some strand ∧ strand.runner? = some user

theorem System.inFlight_iff_not_unserved (system : System) (user : UserKey) :
    system.InFlight user ↔ ¬system.Unserved user := by
  simp [InFlight, Unserved]

/-- The runs for a user after a history. -/
structure SingleFile (user : UserKey) (system : System) (moments : List Moment) : Prop where
  /-- No two runs are in flight. -/
  alone : ∀ (position other : Nat) (strand strand' : Strand),
    system.strands[position]? = some strand → strand.runner? = some user →
      system.strands[other]? = some strand' → strand'.runner? = some user → other = position
  /-- The slot is taken exactly while a run is in flight. -/
  taken : system.board.slots.slot user ≠ .idle ↔ system.InFlight user
  /-- The one pass of a run in flight is not over. -/
  going : ∀ (position : Nat) (run : Run) (failure : Option LookupError),
    system.strands[position]? = some (.running run failure) → run.ticket.user = user →
      run.pass.outcome? = none
  /-- What is parked in the slot is the work that arrived last for this user. -/
  parked : ∀ work, system.board.slots.slot user = .running (some work) →
    ∃ arrival, (arrivals (ledger user moments)).getLast? = some arrival ∧ arrival.user = user ∧
      arrival.work = work

/-- What a moment does to the runs for a user. -/
structure Moment.SingleFile (user : UserKey) (moment : Moment) : Prop where
  /-- A pass begins only if no run is in flight, or as the pass before it comes to its end. -/
  began : ∀ work found, .began work found ∈ moment.marks user →
    ¬moment.system.InFlight user ∨
      ∃ position spot passage run failure, moment.event = .perform position spot passage ∧
        moment.system.strands[position]? = some (.running run failure) ∧ run.ticket.user = user ∧
          (run.pass.perform moment.system.board passage spot).2.outcome?.isSome = true
  /-- A run that ends leaves the slot idle. -/
  ended : ∀ (position : Nat) (strand : Strand), moment.system.strands[position]? = some strand →
    strand.runner? = some user →
      (∀ after, moment.next.strands[position]? = some after → after.runner? ≠ some user) →
        moment.next.board.slots.slot user = .idle
  /-- Work that arrives while a run is in flight is answered at once, as taken over. -/
  answered : ∀ arrival, moment.arrival? = some arrival → arrival.user = user →
    moment.system.InFlight user → moment.next.Returns arrival .coalesced
  /-- Work that arrives for somebody else is not parked here and does not change the runs. -/
  apart : ∀ arrival, moment.arrival? = some arrival → arrival.user ≠ user →
    moment.next.board.slots.slot user = moment.system.board.slots.slot user ∧
      ∀ (position : Nat) (strand : Strand), strand.runner? = some user →
        (moment.next.strands[position]? = some strand ↔
          moment.system.strands[position]? = some strand)

/-- How the runs for a user go in a history. -/
structure System.FliesSingly (system : System) (user : UserKey) (events : List Event) : Prop where
  /-- After the history they are in order. -/
  reached : SingleFile user (system.run events) (system.moments events)
  /-- Every moment of the history keeps them so. -/
  moments : ∀ moment ∈ system.moments events, moment.SingleFile user
  /-- Whatever happens later, work that was requested for the user is answered as taken over exactly
  if a run for the user was in flight when it arrived. -/
  coalesced_iff : ∀ before event after, events = before ++ event :: after →
    ∀ arrival, Moment.arrival? ⟨system.run before, event⟩ = some arrival → arrival.user = user →
      arrival.failure = none →
        ((system.run events).strands[arrival.strand]? = some (.ended (.settled .coalesced)) ↔
          (system.run before).InFlight user)

/-- A run that enters a slot is coalesced exactly if the slot is taken. -/
theorem Run.start_coalesced_iff (board : Switchboard) (user : UserKey) (work : Work) :
    (Run.start board user work).2 = .over .coalesced ↔ board.slots.slot user ≠ .idle := by
  cases slot : board.slots.slot user with
  | running parked => simp [Run.start_of_running work slot]
  | idle =>
      refine iff_of_false (fun coalesced => ?_) (fun taken => taken rfl)
      have stands := Run.stands_start (fun _ _ => True) work slot
      rw [coalesced] at stands
      cases stands with
      | concluded idle closes settled => exact closes

/-- No pass has been taken over. -/
theorem Pass.outcome?_ne_coalesced (pass : Pass) : pass.outcome? ≠ some .coalesced := by
  cases pass <;> simp [outcome?]

theorem Run.advance_ne_coalesced (run : Run) (board : Switchboard) :
    (run.advance board).2 ≠ .over .coalesced := by
  unfold Run.advance
  split
  · nofun
  · rename_i outcome ended
    simp only
    split
    · rintro ⟨⟩
      exact run.pass.outcome?_ne_coalesced ended
    · split
      · nofun
      · rename_i other ended'
        rintro ⟨⟩
        exact Pass.outcome?_ne_coalesced _ ended'

namespace Strand

/-- A strand that got the slot: it runs, or it has ended otherwise than taken over. -/
def Flown : Strand → Prop
  | running _ _ => True
  | strand => strand.isOver = true ∧ strand ≠ .ended (.settled .coalesced)

theorem flown_ofRunState (failure : Option LookupError) {state : RunState}
    (apart : state ≠ .over .coalesced) : (ofRunState failure state).Flown := by
  cases state with
  | active run => trivial
  | «over» outcome =>
      cases failure with
      | none => exact ⟨rfl, fun same => apart (by cases same; rfl)⟩
      | some error => exact ⟨rfl, nofun⟩

/-- Whatever happens, it is not taken over any more. -/
theorem Flown.next {strand : Strand} (flown : strand.Flown) (moment : Moment) {position : Nat}
    (found : moment.system.strands[position]? = some strand) :
    ∃ after, moment.next.strands[position]? = some after ∧ after.Flown := by
  obtain ⟨after, present, change⟩ := moment.strand_next found
  refine ⟨after, present, ?_⟩
  cases strand with
  | running run failure =>
      rcases change with rfl | ⟨spot, passage, -, rfl⟩ | ⟨user, same, -⟩ | rfl | ⟨kept, -, rfl⟩
      · exact flown
      · exact flown_ofRunState failure (Run.advance_ne_coalesced _ _)
      · cases same
      · exact flown
      · exact ⟨rfl, nofun⟩
  | ended conclusion =>
      cases (Moment.strand_next_of_isOver found rfl).symm.trans present
      exact flown
  | dropped =>
      cases (Moment.strand_next_of_isOver found rfl).symm.trans present
      exact flown
  | _ => cases flown.1

theorem Flown.run {strand : Strand} (flown : strand.Flown) {system : System} {position : Nat}
    (found : system.strands[position]? = some strand) (events : List Event) :
    ∃ after, (system.run events).strands[position]? = some after ∧ after.Flown := by
  induction events generalizing system strand with
  | nil => exact ⟨strand, found, flown⟩
  | cons event rest induction =>
      obtain ⟨after, present, flown⟩ := flown.next ⟨system, event⟩ found
      exact induction flown present

end Strand

theorem Run.isSome_outcome?_of_successor? {run : Run} {board : Switchboard} {passage : Passage}
    {spot : Spot} {work : Work} (more : run.successor? board passage spot = some work) :
    (run.pass.perform board passage spot).2.outcome?.isSome = true := by
  unfold Run.successor? Run.next? at more
  split at more
  · assumption
  · cases more

namespace Served

variable {user : UserKey} {moments : List Moment}

theorem taken_iff_inFlight {system : System} (served : Served user system moments) :
    system.board.slots.slot user ≠ .idle ↔ system.InFlight user := by
  rw [System.inFlight_iff_not_unserved]
  exact not_congr ⟨served.unserved_of_idle, served.idle_of_unserved⟩

theorem alone {system : System} (served : Served user system moments) {position other : Nat}
    {strand strand' : Strand} (found : system.strands[position]? = some strand)
    (serves : strand.runner? = some user) (found' : system.strands[other]? = some strand')
    (serves' : strand'.runner? = some user) : other = position := by
  obtain ⟨run, failure, rfl, mine⟩ := Strand.runner?_eq_some.1 serves
  obtain ⟨opener, work, connections, parked, rfl, rfl, standing⟩ :=
    served.active_of_running found mine
  exact standing.alone other strand' found' serves'

theorem singleFile {system : System} (served : Served user system moments)
    (mine : ∀ arrival ∈ arrivals (ledger user moments), arrival.user = user) :
    SingleFile user system moments where
  alone := fun _ _ _ _ found serves found' serves' => served.alone found serves found' serves'
  taken := served.taken_iff_inFlight
  going := by
    intro position run failure found same
    obtain ⟨opener, work, connections, parked, rfl, rfl, standing⟩ :=
      served.active_of_running found same
    cases standing.stands with
    | active held going serves => exact going
  parked := by
    intro work held
    have running : system.InFlight user :=
      served.taken_iff_inFlight.1 (by rw [held]; nofun)
    obtain ⟨position, strand, found, serves⟩ := running
    obtain ⟨run, failure, rfl, same⟩ := Strand.runner?_eq_some.1 serves
    obtain ⟨opener, present, connections, parked, rfl, rfl, standing⟩ :=
      served.active_of_running found same
    obtain ⟨arrival, last, newest⟩ := standing.newest
    refine ⟨arrival, last, mine arrival (List.mem_of_getLast? last), ?_⟩
    cases standing.stands with
    | active held' going serves =>
        cases held.symm.trans held'
        exact newest

end Served

namespace Moment

variable {user : UserKey} {moment : Moment} {moments : List Moment}

/-- A pass begins only with a run, or after the pass before it. -/
theorem singleFile_began (served : Served user moment.system moments) {work : Work}
    {found : List Connection} (began : .began work found ∈ moment.marks user) :
    ¬moment.system.InFlight user ∨
      ∃ position spot passage run failure, moment.event = .perform position spot passage ∧
        moment.system.strands[position]? = some (.running run failure) ∧ run.ticket.user = user ∧
          (run.pass.perform moment.system.board passage spot).2.outcome?.isSome = true := by
  cases moment.kind with
  | arriving arrival arrived fresh untouched board strand others undone =>
      refine .inl ?_
      by_cases mine : arrival.user = user
      · rw [marks_of_arrival arrived mine, opens_of_arrival? arrived, mine] at began
        rw [← served.taken_iff_inFlight]
        split at began
        · rename_i idle
          exact not_not_intro (of_decide_eq_true idle)
        · simp at began
      · simp [marks, arrived, mine] at began
  | answering position spot passage run failure event strand next =>
      refine .inr ⟨position, spot, passage, run, failure, event, strand, ?_⟩
      rw [marks_of_answer event strand] at began
      split at began
      · rename_i mine
        split at began
        · rename_i more
          exact ⟨mine, Run.isSome_outcome?_of_successor? more⟩
        · cases began
      · cases began
  | abandoning position kept run failure event strand board strands undone =>
      rw [marks_of_abandon event strand] at began
      split at began <;> simp at began
  | aside marks foreign slots runs stays undone =>
      rw [marks user] at began
      cases began

/-- If one strand is replaced and the run for a user ends, it is the run that is replaced, and nobody
runs for the user any more. -/
theorem unserved_next_of_set (served : Served user moment.system moments) {position : Nat}
    {strand : Strand} (found : moment.system.strands[position]? = some strand)
    (serves : strand.runner? = some user)
    (ended : ∀ after, moment.next.strands[position]? = some after → after.runner? ≠ some user)
    {replaced : Nat} {instead : Strand}
    (strands : moment.next.strands = moment.system.strands.set replaced instead) :
    moment.next.Unserved user := by
  intro other strand' found' serves'
  by_cases here : other = position
  · subst here
    exact ended strand' found' serves'
  · have kept : replaced = other := by
      by_contra apart
      rw [strands, List.getElem?_set_ne apart] at found'
      exact here (served.alone found serves found' serves')
    refine ended strand ?_ serves
    rw [strands, List.getElem?_set_ne (kept ▸ here)]
    exact found

/-- When the run for a user ends, nobody runs for the user any more. -/
theorem unserved_next_of_ended (served : Served user moment.system moments) {position : Nat}
    {strand : Strand} (found : moment.system.strands[position]? = some strand)
    (serves : strand.runner? = some user)
    (ended : ∀ after, moment.next.strands[position]? = some after → after.runner? ≠ some user) :
    moment.next.Unserved user := by
  cases moment.kind with
  | arriving arrival arrived fresh untouched board strand_eq others undone =>
      have here := (arrives_of_arrival? arrived).ne_of_running found serves
      exact absurd serves (ended strand ((others position here).trans found))
  | answering replaced spot passage run failure event running next =>
      exact unserved_next_of_set served found serves ended (congrArg System.strands next)
  | abandoning replaced kept run failure event running board strands undone =>
      exact unserved_next_of_set served found serves ended strands
  | aside marks foreign slots runs stays undone =>
      obtain ⟨run, failure, rfl, same⟩ := Strand.runner?_eq_some.1 serves
      exact absurd serves (ended _ ((runs position run failure).2 found))

theorem singleFile (served : Served user moment.system moments) : moment.SingleFile user where
  began := fun _ _ marked => singleFile_began served marked
  ended := fun _ _ found serves gone =>
    (served.next moment).idle_of_unserved (unserved_next_of_ended served found serves gone)
  answered := by
    rintro arrival arrived rfl flying
    have strand := (arrives_of_arrival? arrived).strand
    rw [(Run.start_coalesced_iff _ _ _).2 (served.taken_iff_inFlight.2 flying)] at strand
    exact System.returns_of_over strand
  apart := by
    intro arrival arrived other
    have bypasses := (arrives_of_arrival? arrived).bypasses (Ne.symm other)
    exact ⟨bypasses.slot, bypasses.runs⟩

end Moment

/-- However requests of any users and the answers to them are interleaved, the runs for every user
follow one another, and each of them keeps to the slot of its own user. -/
theorem single_flight {system : System} (resting : ∀ user, system.Resting user)
    (events : List Event) (user : UserKey) : system.FliesSingly user events := by
  refine ⟨(Served.run (resting user) events).singleFile fun arrival arrived => ?_,
    fun moment member => ?_, ?_⟩
  · obtain ⟨mark, marked, arrived⟩ := List.mem_filterMap.1 arrived
    obtain ⟨moment, -, marked⟩ := List.mem_flatMap.1 marked
    exact (Moment.arrival?_of_marks (List.mem_filterMap.2 ⟨mark, marked, arrived⟩)).2
  · obtain ⟨before, after, -, reached⟩ := System.exists_of_mem_moments member
    have served := Served.run (resting user) before
    rw [← reached] at served
    exact Moment.singleFile served
  · rintro before event after rfl arrival arrived rfl requested
    have served := Served.run (resting arrival.user) before
    have strand := (Moment.arrives_of_arrival? arrived).strand
    rw [System.run_append, System.run_cons]
    constructor
    · intro coalesced
      by_contra free
      have apart : (Run.start (system.run before).board arrival.user arrival.work).2 ≠
          .over .coalesced := fun same =>
        free (served.taken_iff_inFlight.1 ((Run.start_coalesced_iff _ _ _).1 same))
      obtain ⟨later, present, flown⟩ :=
        (Strand.flown_ofRunState arrival.failure apart).run strand after
      cases coalesced.symm.trans present
      exact flown.2 rfl
    · intro flying
      have answered := (Moment.singleFile served).answered arrival arrived rfl flying
      rw [System.Returns, requested] at answered
      exact System.strand_run_of_isOver answered rfl after

/-- Two users are served at the same time, more is requested for the first one meanwhile, and then all
of it is carried out. -/
def twoFlights : List Event :=
  [.register firstUser ⟨"c1"⟩,
    .register secondUser ⟨"c2"⟩,
    .submit (.refresh editor),
    .submit (.revokeUser secondUser),
    .submit (.revokeUser firstUser),
    .perform 0 (.question ⟨"news"⟩) .through,
    .perform 1 (.operation (.leave ⟨"c2"⟩ ⟨"news"⟩)) .through,
    .perform 0 (.operation (.join ⟨"c1"⟩ ⟨"news"⟩)) .through,
    .perform 0 (.operation (.leave ⟨"c1"⟩ ⟨"news"⟩)) .through]

theorem two_flights_in_newsroom :
    (quietNewsroom.run (twoFlights.take 4)).InFlight firstUser ∧
      (quietNewsroom.run (twoFlights.take 4)).InFlight secondUser ∧
      (quietNewsroom.run (twoFlights.take 5)).strands[2]? = some (.ended (.settled .coalesced)) ∧
      (quietNewsroom.run twoFlights).strands[2]? = some (.ended (.settled .coalesced)) ∧
      (quietNewsroom.run twoFlights).strands[1]? ≠ some (.ended (.settled .coalesced)) ∧
      (∃ run failure, (quietNewsroom.run (twoFlights.take 7)).strands[0]? =
          some (.running run failure) ∧
        (run.pass.perform (quietNewsroom.run (twoFlights.take 7)).board .through
          (.operation (.join ⟨"c1"⟩ ⟨"news"⟩))).2.outcome?.isSome = true) ∧
      (quietNewsroom.run twoFlights).board.slots.slot firstUser = .idle ∧
      ¬(quietNewsroom.run twoFlights).InFlight firstUser := by
  have singly (count : Nat) (user : UserKey) :=
    single_flight quietNewsroom_resting (twoFlights.take count) user
  have first := single_flight quietNewsroom_resting twoFlights firstUser
  have second := single_flight quietNewsroom_resting twoFlights secondUser
  have flying := (singly 4 firstUser).reached.taken.1 (by decide +kernel)
  have flying' := (singly 4 secondUser).reached.taken.1 (by decide +kernel)
  have free := mt (singly 3 secondUser).reached.taken.2 (by decide +kernel)
  -- the second request for the first user finds the slot taken
  let arrival : Arrival := ⟨firstUser, .revoke, none, 2, false, false⟩
  have answered := (first.moments ⟨quietNewsroom.run (twoFlights.take 4),
    .submit (.revokeUser firstUser)⟩ (by simp [twoFlights, System.moments])).answered arrival
      (by decide +kernel) rfl flying
  -- with the join the first pass is over, and the second one begins
  have began := (first.moments ⟨quietNewsroom.run (twoFlights.take 7),
    .perform 0 (.operation (.join ⟨"c1"⟩ ⟨"news"⟩)) .through⟩
      (by simp [twoFlights, System.moments])).began .revoke [⟨"c1"⟩] (by decide +kernel)
  -- with the leave the run ends
  obtain ⟨position, strand, found, serves⟩ :=
    (singly 8 firstUser).reached.taken.1 (by decide +kernel)
  have ended : ∀ strand ∈ (quietNewsroom.run twoFlights).strands,
      strand.runner? ≠ some firstUser := by decide +kernel
  have idle := (first.moments ⟨quietNewsroom.run (twoFlights.take 8),
    .perform 0 (.operation (.leave ⟨"c1"⟩ ⟨"news"⟩)) .through⟩
      (by simp [twoFlights, System.moments])).ended position strand found serves
        fun after present => ended after (List.mem_of_getElem? present)
  refine ⟨flying, flying', answered, ?_, ?_, ?_, idle,
    mt first.reached.taken.2 (not_not_intro idle)⟩
  · exact (first.coalesced_iff (twoFlights.take 4) _ (twoFlights.drop 5) rfl arrival
      (by decide +kernel) rfl rfl).2 flying
  · exact mt (second.coalesced_iff (twoFlights.take 3) _ (twoFlights.drop 4) rfl
      ⟨secondUser, .revoke, none, 1, false, true⟩ (by decide +kernel) rfl rfl).1 free
  · obtain ⟨_, _, _, run, failure, event, running, -, finished⟩ :=
      began.resolve_left (not_not_intro ((singly 7 firstUser).reached.taken.1 (by decide +kernel)))
    cases event
    exact ⟨run, failure, running, finished⟩

end ChannelMembership
