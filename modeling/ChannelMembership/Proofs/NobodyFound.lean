import ChannelMembership.Proofs.SingleFlight
import ChannelMembership.Proofs.Switchboard.Duty

/-!
# Calls that find nobody

A refresh looks at the connections of its user again in every pass, and it ends with the outcome of its
last pass.  So if it ends because that pass found nobody, earlier passes may well have asked guards and
changed memberships.  Nothing was done on its behalf exactly if the user was offline when it was
requested.
-/

namespace ChannelMembership

/-- A pass of a run: its work, and the connections that it found. -/
structure Sweep where
  /-- The work. -/
  work : Work
  /-- The connections found. -/
  found : List Connection

namespace Sweep

/-- The operations that a pass attempts. -/
def operations (directory : Directory) (sweep : Sweep) : List Operation :=
  sweep.work.operations directory sweep.found

/-- The questions that a pass puts to guards; none if there is nobody to be served. -/
def questions (directory : Directory) (sweep : Sweep) : List (Guard × Channel) :=
  if sweep.found.isEmpty then [] else sweep.work.questions directory

/-- The outcome of a pass with these attempts. -/
def outcome (user : UserKey) (attempts : List Attempt) : Sweep → Outcome
  | ⟨.reconcile _, []⟩ => .noConnections
  | ⟨work, found⟩ => work.outcome ((Report.start user found.length).tell attempts)

/-- A pass that calls for something to be done outside. -/
def Calls (directory : Directory) (sweep : Sweep) : Prop :=
  sweep.operations directory ≠ [] ∨ sweep.questions directory ≠ []

theorem outcome_eq_noConnections_iff (user : UserKey) (attempts : List Attempt) (sweep : Sweep) :
    sweep.outcome user attempts = .noConnections ↔
      ∃ principal, sweep = ⟨.reconcile principal, []⟩ := by
  obtain ⟨work, found⟩ := sweep
  cases work <;> cases found <;> simp [outcome, Work.outcome]

theorem outcome_of_somebody {sweep : Sweep} (somebody : sweep.found ≠ []) (user : UserKey)
    (attempts : List Attempt) :
    sweep.outcome user attempts =
      sweep.work.outcome ((Report.start user sweep.found.length).tell attempts) := by
  obtain ⟨work, found⟩ := sweep
  cases found with
  | nil => exact absurd rfl somebody
  | cons first rest => cases work <;> rfl

theorem questions_of_somebody {sweep : Sweep} (somebody : sweep.found ≠ [])
    (directory : Directory) : sweep.questions directory = sweep.work.questions directory := by
  rw [questions, if_neg]
  simpa using somebody

/-- Passes that are over: what they issued has been attempted, and what they asked was answered. -/
structure Completed (directory : Directory) (sweeps : List Sweep) (issued : List Operation)
    (attempts : List Attempt) (questions : List (Guard × Channel)) : Prop where
  /-- They issued their operations, one pass after the other. -/
  issued_eq : issued = sweeps.flatMap (operations directory)
  /-- All of these have been attempted. -/
  attempted : (attempts.map Attempt.operation).Perm issued
  /-- The questions are those of the passes. -/
  asked : questions.Perm (sweeps.flatMap (Sweep.questions directory))

variable {directory : Directory} {sweeps : List Sweep} {sweep : Sweep}
  {issued issued' : List Operation} {attempts attempts' : List Attempt}
  {questions questions' : List (Guard × Channel)}

theorem completed_nil (directory : Directory) : Completed directory [] [] [] [] :=
  ⟨rfl, .refl _, .refl _⟩

theorem Completed.concat (completed : Completed directory sweeps issued attempts questions)
    (one : Completed directory [sweep] issued' attempts' questions') :
    Completed directory (sweeps ++ [sweep]) (issued ++ issued') (attempts ++ attempts')
      (questions ++ questions') where
  issued_eq := by rw [List.flatMap_append, completed.issued_eq, one.issued_eq]
  attempted := by
    rw [List.map_append]
    exact completed.attempted.append one.attempted
  asked := by
    rw [List.flatMap_append]
    exact completed.asked.append one.asked

/-- A pass with an attempt or a question called for something. -/
theorem Completed.calls (completed : Completed directory [sweep] issued attempts questions)
    (busy : attempts ≠ [] ∨ questions ≠ []) : sweep.Calls directory := by
  have issued_eq := completed.issued_eq
  have asked := completed.asked
  rw [List.flatMap_singleton] at issued_eq asked
  refine busy.imp ?_ ?_
  · rintro some nothing
    rw [issued_eq, nothing] at completed
    exact some (List.map_eq_nil_iff.1 completed.attempted.eq_nil)
  · rintro some nothing
    rw [nothing] at asked
    exact some asked.eq_nil

/-- If one of the passes called for something, something was done. -/
theorem Completed.busy (completed : Completed directory sweeps issued attempts questions)
    (member : sweep ∈ sweeps) (calls : sweep.Calls directory) :
    attempts ≠ [] ∨ questions ≠ [] := by
  refine calls.imp ?_ ?_
  · rintro some rfl
    have nothing := completed.attempted.nil_eq
    rw [completed.issued_eq] at nothing
    exact some (List.flatMap_eq_nil_iff.1 nothing.symm sweep member)
  · rintro some rfl
    exact some (List.flatMap_eq_nil_iff.1 completed.asked.nil_eq.symm sweep member)

end Sweep

namespace Pass

variable {board : Switchboard} {directory : Directory} {user : UserKey} {sweep : Sweep}
  {issued : List Operation} {attempts : List Attempt} {questions : List (Guard × Channel)}
  {pass : Pass}

/-- A pass that found somebody has done all it called for when it is over. -/
theorem CarriesOut.completed
    (carriesOut : pass.CarriesOut directory user sweep.found sweep.work issued attempts questions)
    (somebody : sweep.found ≠ []) {outcome : Outcome} (finished : pass.outcome? = some outcome) :
    pass.underWay = [] ∧ outcome = sweep.outcome user attempts ∧
      Sweep.Completed directory [sweep] issued attempts questions := by
  obtain ⟨idle, all, attempted, asked, same⟩ := carriesOut.outcome somebody finished
  rw [← Sweep.questions_of_somebody somebody] at asked
  rw [← Sweep.outcome_of_somebody somebody] at same
  refine ⟨idle, same, ?_, attempted, ?_⟩
  · rw [all, List.flatMap_singleton, Sweep.operations]
  · rwa [List.flatMap_singleton]

/-- What a pass has issued has been attempted or is under way. -/
theorem CarriesOut.answered {found : List Connection} {work : Work}
    (carriesOut : pass.CarriesOut directory user found work issued attempts questions) :
    (attempts.map Attempt.operation ++ pass.underWay).Perm issued := by
  cases carriesOut with
  | reconciles reconciles =>
      cases reconciles with
      | skipped nobody => exact .refl _
      | deciding faithful ahead =>
          rw [underWay_deciding]
          exact .refl _
      | reconciling asked accounts =>
          rw [underWay_reconciling]
          exact accounts.answered
  | revokes accounts =>
      rw [underWay_revoking]
      exact accounts.answered

/-- A pass that finds nobody is over at once. -/
theorem start_of_nobody (nobody : board.presence.connections user = []) (work : Work) :
    (start board user work).2.outcome? = some (Sweep.outcome user [] ⟨work, []⟩) ∧
      (start board user work).2.underWay = [] := by
  cases work with
  | reconcile principal => simp [start, nobody, outcome?, Sweep.outcome]
  | revoke =>
      simp [start, nobody, outcome?, Sweep.outcome, Work.outcome, Batch.start, Batch.isDone,
        Report.tell_nil]

/-- An answer that nobody awaits does not bring a pass to its end. -/
theorem outcome?_perform_of_unasked (steady : pass.Steady) (going : pass.outcome? = none)
    {spot : Spot} (unasked : pass.inquiry? spot = none) (passage : Passage) :
    (pass.perform board passage spot).2.outcome? = none := by
  cases pass with
  | skipped => cases going
  | deciding user connections evaluation =>
      cases spot with
      | question channel =>
          have asked : evaluation.asked? channel = none := by simpa [inquiry?] using unasked
          simp [Pass.perform, Evaluation.ask_of_asked?_eq_none asked, settle, steady.2, outcome?]
      | _ => rfl
  | reconciling batch =>
      cases spot with
      | operation operation =>
          have absent : operation ∉ batch.underWay := by simpa [inquiry?] using unasked
          simpa [Pass.perform, Batch.perform, absent] using going
      | _ => exact going
  | revoking batch =>
      cases spot with
      | operation operation =>
          have absent : operation ∉ batch.underWay := by simpa [inquiry?] using unasked
          simpa [Pass.perform, Batch.perform, absent] using going
      | _ => exact going

/-- The answer with which a pass comes to its end is an attempt or a question of its own. -/
theorem call_of_outcome?_perform (steady : pass.Steady) (going : pass.outcome? = none)
    {spot : Spot} {passage : Passage}
    (finished : (pass.perform board passage spot).2.outcome?.isSome = true) :
    (board.attempt? passage spot (pass.inquiry? spot)).isSome = true ∨
      ((pass.inquiry? spot).bind Inquiry.question?).isSome = true := by
  cases asked : pass.inquiry? spot with
  | none =>
      rw [outcome?_perform_of_unasked steady going asked] at finished
      cases finished
  | some inquiry =>
      cases pass <;> cases spot <;> simp [inquiry?] at asked
      case deciding.question =>
        obtain ⟨guard, -, rfl⟩ := asked
        exact .inr rfl
      all_goals exact .inl rfl

end Pass

/-- How a run stands with its pass when nothing is parked. -/
def Run.rest (run : Run) : RunState :=
  match run.pass.outcome? with
  | none => .active run
  | some outcome => .over outcome

namespace Run

variable {run : Run} {board : Switchboard}

/-- A run that makes no further pass rests with its pass. -/
theorem advance_of_last (last : run.next? board = none) :
    (run.advance board).2 = run.rest := by
  cases finished : run.pass.outcome? with
  | none => simp only [advance, rest, finished]
  | some outcome =>
      have unparked : (board.slots.next run.ticket).2.2 = none := by
        simpa [next?, finished] using last
      simp only [advance, rest, finished, unparked]

/-- A run that makes a further pass begins it on the connections live at that moment. -/
theorem advance_of_more {work : Work} (more : run.next? board = some work) :
    ∃ (again : Run) (taken : Switchboard), (run.advance board).2 = again.rest ∧
      again.ticket.user = run.ticket.user ∧
      again.pass = (Pass.start taken run.ticket.user work).2 ∧
      taken.directory = board.directory ∧ taken.presence = board.presence ∧
        taken.limits = board.limits := by
  cases finished : run.pass.outcome? with
  | none => simp [next?, finished] at more
  | some outcome =>
      have parked : (board.slots.next run.ticket).2.2 = some work := by
        simpa [next?, finished] using more
      have same : (board.slots.next run.ticket).2.1.user = run.ticket.user := Slots.next_user
      refine ⟨⟨(board.slots.next run.ticket).2.1, work, _⟩,
        { board with slots := (board.slots.next run.ticket).1 }, ?_, same, rfl, rfl, rfl, rfl⟩
      simp only [advance, rest, finished, parked, same]
      split <;> simp_all

end Run

/-- What a run has done for a user, in passes, operations issued, operations attempted and questions
answered. -/
inductive RunState.Sweeps (directory : Directory) (user : UserKey) :
    List Sweep → List Operation → List Attempt → List (Guard × Channel) → RunState → Prop
  /-- Some passes are over, and one that found somebody is going on. -/
  | active {earlier : List Sweep} {sweep : Sweep} {issued issued' : List Operation}
    {attempts attempts' : List Attempt} {questions questions' : List (Guard × Channel)} {run : Run}
    (completed : Sweep.Completed directory earlier issued attempts questions)
    (called : ∀ pass ∈ earlier, pass.Calls directory) (mine : run.ticket.user = user)
    (somebody : sweep.found ≠ []) (steady : run.pass.Steady) (going : run.pass.outcome? = none)
    (carriesOut : run.pass.CarriesOut directory user sweep.found sweep.work issued' attempts'
      questions') :
    Sweeps directory user (earlier ++ [sweep]) (issued ++ issued') (attempts ++ attempts')
      (questions ++ questions') (active run)
  /-- All passes are over, and the outcome is that of the last one. -/
  | concluded {earlier : List Sweep} {sweep : Sweep} {issued issued' : List Operation}
    {attempts attempts' : List Attempt} {questions questions' : List (Guard × Channel)}
    (completed : Sweep.Completed directory earlier issued attempts questions)
    (called : ∀ pass ∈ earlier, pass.Calls directory)
    (last : Sweep.Completed directory [sweep] issued' attempts' questions') :
    Sweeps directory user (earlier ++ [sweep]) (issued ++ issued') (attempts ++ attempts')
      (questions ++ questions') (.over (sweep.outcome user attempts'))

namespace RunState

variable {board : Switchboard} {directory : Directory} {user : UserKey} {earlier : List Sweep}
  {issued issued' : List Operation} {attempts attempts' : List Attempt}
  {questions questions' : List (Guard × Channel)} {run : Run}

/-- A pass that found somebody goes on, or it was the last one. -/
theorem sweeps_rest {sweep : Sweep}
    (completed : Sweep.Completed directory earlier issued attempts questions)
    (called : ∀ pass ∈ earlier, pass.Calls directory) (mine : run.ticket.user = user)
    (somebody : sweep.found ≠ []) (steady : run.pass.Steady)
    (carriesOut : run.pass.CarriesOut directory user sweep.found sweep.work issued' attempts'
      questions') :
    run.rest.Sweeps directory user (earlier ++ [sweep]) (issued ++ issued') (attempts ++ attempts')
        (questions ++ questions') ∧
      (Strand.ofRunState none run.rest).underWay = run.pass.underWay := by
  cases finished : run.pass.outcome? with
  | none =>
      simp only [Run.rest, finished]
      exact ⟨.active completed called mine somebody steady finished carriesOut, rfl⟩
  | some outcome =>
      obtain ⟨idle, rfl, last⟩ := carriesOut.completed somebody finished
      simp only [Run.rest, finished, idle]
      exact ⟨.concluded completed called last, rfl⟩

/-- A pass that has just begun may find nobody, and then it was the last one. -/
theorem sweeps_begin {work : Work}
    (completed : Sweep.Completed board.directory earlier issued attempts questions)
    (called : ∀ pass ∈ earlier, pass.Calls board.directory) (mine : run.ticket.user = user)
    (begun : run.pass = (Pass.start board user work).2) :
    run.rest.Sweeps board.directory user
        (earlier ++ [⟨work, board.presence.connections user⟩]) (issued ++ run.pass.underWay)
        attempts questions ∧
      (Strand.ofRunState none run.rest).underWay = run.pass.underWay := by
  by_cases nobody : board.presence.connections user = []
  · obtain ⟨finished, idle⟩ := Pass.start_of_nobody nobody work
    rw [← begun] at finished idle
    have last : Sweep.Completed board.directory [⟨work, []⟩] [] [] [] :=
      ⟨rfl, .refl _, .refl _⟩
    have concluded : (RunState.over (Sweep.outcome user [] ⟨work, []⟩)).Sweeps board.directory user
        (earlier ++ [⟨work, []⟩]) (issued ++ []) (attempts ++ []) (questions ++ []) :=
      .concluded completed called last
    simp only [Run.rest, finished, idle, nobody]
    exact ⟨by simpa using concluded, rfl⟩
  · have steady := Pass.steady_start board user work
    have carriesOut := Pass.carriesOut_start board user work
    rw [← begun] at steady carriesOut
    have somebody : (Sweep.mk work (board.presence.connections user)).found ≠ [] := nobody
    simpa using sweeps_rest completed called mine somebody steady carriesOut

end RunState

/-- Where everything under way is answered, whatever is under way afterwards has been issued. -/
theorem issuedBetween_of_answered {before : List Operation} {attempt? : Option Attempt}
    (answered : before.Perm (attempt?.toList.map Attempt.operation)) (after : List Operation) :
    issuedBetween before after attempt? = after := by
  have nothing : before.diff (attempt?.toList.map Attempt.operation) = [] := by
    rw [← answered.diff_left]
    simpa using append_diff_self before []
  rw [issuedBetween, nothing, List.diff_nil]

/-- The further pass with which a strand goes on at a moment, if it does. -/
def Moment.further? (position : Nat) (user : UserKey) (moment : Moment) : Option Sweep :=
  (moment.rerun? position).map fun work => ⟨work, moment.system.board.presence.connections user⟩

/-- The passes that a strand begins in a history to do parked work. -/
def furtherSweeps (position : Nat) (user : UserKey) (moments : List Moment) : List Sweep :=
  moments.filterMap (Moment.further? position user)

theorem furtherSweeps_concat (position : Nat) (user : UserKey) (moments : List Moment)
    (moment : Moment) :
    furtherSweeps position user (moments ++ [moment]) =
      furtherSweeps position user moments ++ (moment.further? position user).toList := by
  cases again : moment.further? position user <;> simp [furtherSweeps, again]

/-- What a strand that refreshes a user has done, in passes, operations issued, operations attempted and
questions answered. -/
inductive Strand.Sweeps (directory : Directory) (user : UserKey) :
    List Sweep → List Operation → List Attempt → List (Guard × Channel) → Strand → Prop
  /-- Its run makes passes, or has made them. -/
  | runs {sweeps : List Sweep} {issued : List Operation} {attempts : List Attempt}
    {questions : List (Guard × Channel)} {state : RunState}
    (runs : state.Sweeps directory user sweeps issued attempts questions) :
    Sweeps directory user sweeps issued attempts questions (ofRunState none state)
  /-- It was given up. -/
  | dropped {sweeps : List Sweep} {issued : List Operation} {attempts : List Attempt}
    {questions : List (Guard × Channel)} :
    Sweeps directory user sweeps issued attempts questions dropped

section Step

variable {user : UserKey} {sweeps earlier : List Sweep} {sweep : Sweep}
  {issued issued' : List Operation} {attempts attempts' : List Attempt}
  {questions questions' : List (Guard × Channel)} {run : Run} {strand : Strand}
  {moment : Moment} {position : Nat} {spot : Spot} {passage : Passage}

theorem Moment.running_of_further? (again : moment.further? position user = some sweep) :
    ∃ spot passage run failure, moment.event = .perform position spot passage ∧
      moment.system.strands[position]? = some (.running run failure) := by
  obtain ⟨work, more, -⟩ := Option.map_eq_some_iff.1 again
  unfold rerun? at more
  split at more
  · rename_i other spot passage run failure event present
    split at more
    · rename_i here
      subst here
      exact ⟨spot, passage, run, failure, event, present⟩
    · cases more
  · cases more

theorem Moment.further?_eq_none
    (elsewhere : ∀ spot passage, moment.event ≠ .perform position spot passage) :
    moment.further? position user = none := by
  refine Option.eq_none_iff_forall_ne_some.2 fun sweep again => ?_
  obtain ⟨spot, passage, run, failure, event, -⟩ := running_of_further? again
  exact elsewhere spot passage event

theorem Moment.further?_of_isOver (present : moment.system.strands[position]? = some strand)
    (finished : strand.isOver = true) : moment.further? position user = none := by
  refine Option.eq_none_iff_forall_ne_some.2 fun sweep again => ?_
  obtain ⟨spot, passage, run, failure, -, running⟩ := running_of_further? again
  cases present.symm.trans running
  cases finished

theorem Moment.further?_of_running (event : moment.event = .perform position spot passage)
    (present : moment.system.strands[position]? = some (.running run none)) :
    moment.further? position user =
      (run.successor? moment.system.board passage spot).map fun work =>
        ⟨work, moment.system.board.presence.connections user⟩ := by
  simp [further?, rerun?, event, present]

/-- An answer in a pass that found somebody brings the pass forward, or begins a further one. -/
theorem RunState.sweeps_answer {board : Switchboard}
    (completed : Sweep.Completed board.directory earlier issued attempts questions)
    (called : ∀ pass ∈ earlier, pass.Calls board.directory) (mine : run.ticket.user = user)
    (somebody : sweep.found ≠ []) (steady : run.pass.Steady) (going : run.pass.outcome? = none)
    (carriesOut : run.pass.CarriesOut board.directory user sweep.found sweep.work issued' attempts'
      questions') (passage : Passage) (spot : Spot) :
    (run.perform board passage spot).2.Sweeps board.directory user
      (earlier ++ [sweep] ++ ((run.successor? board passage spot).map fun work =>
        Sweep.mk work (board.presence.connections user)).toList)
      (issued ++ issued' ++ issuedBetween run.pass.underWay
        (Strand.ofRunState none (run.perform board passage spot).2).underWay
        (board.attempt? passage spot (run.pass.inquiry? spot)))
      (attempts ++ attempts' ++ (board.attempt? passage spot (run.pass.inquiry? spot)).toList)
      (questions ++ questions' ++ ((run.pass.inquiry? spot).bind Inquiry.question?).toList) := by
  let performed := run.pass.perform board passage spot
  let forward : Run := { run with pass := performed.2 }
  have state : run.perform board passage spot = forward.advance performed.1 :=
    run.perform_eq board passage spot
  have board_eq := run.pass.perform_board board passage spot
  have further := carriesOut.perform passage spot
  rw [state]
  simp only [List.append_assoc]
  cases more : run.successor? board passage spot with
  | none =>
      obtain ⟨resting, underWay⟩ := sweeps_rest completed called
        (show forward.ticket.user = user from mine) somebody (steady.perform board passage spot)
        further
      rw [Run.advance_of_last more, underWay]
      simpa using resting
  | some work =>
      have finished := Run.isSome_outcome?_of_successor? more
      obtain ⟨outcome, final⟩ := Option.isSome_iff_exists.1 finished
      obtain ⟨idle, -, one⟩ := further.completed somebody final
      rw [idle, issuedBetween_to_nil, List.append_nil] at one
      have answered : run.pass.underWay.Perm
          ((board.attempt? passage spot (run.pass.inquiry? spot)).toList.map Attempt.operation) := by
        have before := carriesOut.answered
        have after := one.attempted
        rw [List.map_append] at after
        exact (List.perm_append_left_iff _).1 (before.trans after.symm)
      have calls : sweep.Calls board.directory := by
        refine one.calls ((Pass.call_of_outcome?_perform steady going finished).imp ?_ ?_) <;>
          intro some <;> obtain ⟨call, same⟩ := Option.isSome_iff_exists.1 some <;> simp [same]
      obtain ⟨again, taken, same, ticket, begun, directory, presence, -⟩ := Run.advance_of_more more
      rw [mine] at ticket begun
      rw [board_eq] at directory presence
      rw [← directory] at completed called one calls
      have called' : ∀ pass ∈ earlier ++ [sweep], pass.Calls taken.directory := by
        intro pass member
        rcases List.mem_append.1 member with before | now
        · exact called pass before
        · rwa [List.mem_singleton.1 now]
      obtain ⟨resting, underWay⟩ := sweeps_begin (completed.concat one) called' ticket begun
      rw [same, underWay, issuedBetween_of_answered answered]
      rw [directory, presence] at resting
      simpa using resting

/-- A strand that refreshes a user comes one step further. -/
theorem Strand.Sweeps.next (moment : Moment)
    (runs : strand.Sweeps moment.system.board.directory user sweeps issued attempts questions)
    (present : moment.system.strands[position]? = some strand) :
    ∃ after, moment.next.strands[position]? = some after ∧
      after.Sweeps moment.system.board.directory user
        (sweeps ++ (moment.further? position user).toList) (issued ++ moment.issues position)
        (attempts ++ (moment.attemptOf? position).toList)
        (questions ++ (moment.questionOf? position).toList) := by
  have stays (same : moment.next.strands[position]? = some strand)
      (last : moment.further? position user = none)
      (silent : moment.attemptOf? position = none ∧ moment.questionOf? position = none) :
      ∃ after, moment.next.strands[position]? = some after ∧
        after.Sweeps moment.system.board.directory user
          (sweeps ++ (moment.further? position user).toList) (issued ++ moment.issues position)
          (attempts ++ (moment.attemptOf? position).toList)
          (questions ++ (moment.questionOf? position).toList) := by
    refine ⟨strand, same, ?_⟩
    simpa [Moment.issues_eq_nil present same silent.1, silent, last] using runs
  have finished (finished : strand.isOver = true) :=
    stays (Moment.strand_next_of_isOver present finished)
      (Moment.further?_of_isOver present finished) (Moment.silent_of_isOver present finished)
  cases runs with
  | dropped => exact finished rfl
  | runs runs =>
      cases runs with
      | concluded completed called last => exact finished rfl
      | @active earlier sweep issued issued' attempts attempts' questions questions' run completed
          called mine somebody steady going carriesOut =>
          cases moment.turn present nofun with
          | stays strand_eq elsewhere =>
              exact stays strand_eq (Moment.further?_eq_none elsewhere)
                ⟨Moment.attemptOf?_eq_none elsewhere, Moment.questionOf?_eq_none elsewhere⟩
          | answers spot passage event strand_eq board_eq =>
              refine ⟨_, strand_eq, ?_⟩
              rw [Moment.issues_eq present strand_eq, Moment.attemptOf?_of_perform event present,
                Moment.questionOf?_of_perform event present,
                Moment.further?_of_running event present]
              exact .runs (RunState.sweeps_answer completed called mine somebody steady going
                carriesOut passage spot)
          | expires event strand_eq board_eq =>
              have elsewhere : ∀ spot passage, moment.event ≠ .perform position spot passage := by
                simp [event]
              exact stays strand_eq (Moment.further?_eq_none elsewhere)
                ⟨Moment.attemptOf?_eq_none elsewhere, Moment.questionOf?_eq_none elsewhere⟩
          | abandoned kept event strand_eq => exact ⟨_, strand_eq, .dropped⟩

end Step

section Call

variable {system : System} {principal : Principal} {user : UserKey}

/-- The refresh of a user is a single strand. -/
theorem System.strand_of_refresh (system : System) (known : principal.user = some user) :
    (system.step (.submit (.refresh principal))).strands[system.strands.length]? =
      some (Strand.submit system.board user (.reconcile principal) none).2 := by
  simp only [step, System.submit, Request.begin, known]
  exact List.getElem?_concat_length

/-- When it is requested, nothing is attempted or asked on its behalf, and it issues what its strand
then waits for. -/
theorem opening_moment {strand : Strand}
    (present : (system.step (.submit (.refresh principal))).strands[system.strands.length]? =
      some strand) :
    let opening : Moment := ⟨system, .submit (.refresh principal)⟩
    opening.attemptOf? system.strands.length = none ∧
      opening.questionOf? system.strands.length = none ∧
      opening.issues system.strands.length = strand.underWay := by
  intro opening
  have attempt : opening.attemptOf? system.strands.length = none :=
    Moment.attemptOf?_eq_none nofun
  refine ⟨attempt, Moment.questionOf?_eq_none nofun, ?_⟩
  rw [Moment.issues, attempt]
  simp [opening, System.underWay, Moment.next, present]

/-- A refresh that enters an idle slot begins its first pass. -/
theorem sweeps_opening (known : principal.user = some user)
    (online : system.board.presence.isOnline user = true)
    (idle : system.board.slots.slot user = .idle) :
    ∃ strand, (system.step (.submit (.refresh principal))).strands[system.strands.length]? =
        some strand ∧
      strand.Sweeps system.board.directory user
        [⟨.reconcile principal, system.board.presence.connections user⟩] strand.underWay [] [] := by
  have strand := system.strand_of_refresh known
  let taken : Switchboard :=
    { system.board with slots := system.board.slots.set user (.running none) }
  let run : Run := ⟨⟨user, true⟩, .reconcile principal,
    (Pass.start taken user (.reconcile principal)).2⟩
  have last : run.next? (Pass.start taken user (.reconcile principal)).1 = none := by
    have held : (Pass.start taken user (.reconcile principal)).1.slots.slot user =
        .running none := by
      rw [Pass.start_board]
      exact Slots.slot_set_self _ _ _
    simp [run, Run.next?, Slots.next_of_running_none held]
  have pass : run.pass = (Pass.start taken user (.reconcile principal)).2 := rfl
  obtain ⟨begun, underWay⟩ := RunState.sweeps_begin (Sweep.completed_nil taken.directory)
    (List.forall_mem_nil _) (show run.ticket.user = user from rfl) pass
  rw [Strand.submit_eq, Switchboard.submit, if_pos online, Run.start_eq_advance _ idle,
    Run.advance_of_last last] at strand
  refine ⟨_, strand, .runs ?_⟩
  rw [underWay]
  exact begun

/-- Whatever else happens, the refresh goes on with its passes. -/
theorem sweeps_run (known : principal.user = some user)
    (online : system.board.presence.isOnline user = true)
    (idle : system.board.slots.slot user = .idle) (rest : List Event) :
    ∃ strand, (system.run (.submit (.refresh principal) :: rest)).strands[system.strands.length]? =
        some strand ∧
      strand.Sweeps system.board.directory user
        (⟨.reconcile principal, system.board.presence.connections user⟩ ::
          furtherSweeps system.strands.length user
            (system.moments (.submit (.refresh principal) :: rest)))
        (issuedBy system.strands.length (system.moments (.submit (.refresh principal) :: rest)))
        (attemptsOf system.strands.length (system.moments (.submit (.refresh principal) :: rest)))
        (questionsOf system.strands.length
          (system.moments (.submit (.refresh principal) :: rest))) := by
  induction rest using List.reverseRecOn with
  | nil =>
      obtain ⟨strand, present, begun⟩ := sweeps_opening known online idle
      obtain ⟨unattempted, unasked, issues⟩ := opening_moment present
      have last : (⟨system, .submit (.refresh principal)⟩ : Moment).further? system.strands.length
          user = none := Moment.further?_eq_none nofun
      refine ⟨strand, present, ?_⟩
      simpa [System.moments, furtherSweeps, issuedBy, attemptsOf, questionsOf, unattempted, unasked,
        last, issues] using begun
  | append_singleton events event induction =>
      obtain ⟨strand, present, runs⟩ := induction
      have directory := system.run_directory (.submit (.refresh principal) :: events)
      rw [← List.cons_append, System.run_concat, System.moments_concat, issuedBy_concat,
        attemptsOf_concat, questionsOf_concat, furtherSweeps_concat, ← List.cons_append]
      rw [← directory] at runs ⊢
      exact Strand.Sweeps.next ⟨system.run (.submit (.refresh principal) :: events), event⟩ runs
        present

/-- A strand does nothing in a history. -/
def Silent (position : Nat) (moments : List Moment) : Prop :=
  issuedBy position moments = [] ∧ attemptsOf position moments = [] ∧
    questionsOf position moments = []

/-- A refresh that is over at once has done nothing. -/
theorem silent_of_isOver {strand : Strand}
    (present : (system.step (.submit (.refresh principal))).strands[system.strands.length]? =
      some strand)
    (finished : strand.isOver = true) (rest : List Event) :
    (system.run (.submit (.refresh principal) :: rest)).strands[system.strands.length]? =
        some strand ∧
      Silent system.strands.length (system.moments (.submit (.refresh principal) :: rest)) := by
  obtain ⟨stays, unissued, unattempted, unasked⟩ := System.silent_of_isOver present finished rest
  obtain ⟨noAttempt, noQuestion, issues⟩ := opening_moment present
  have idle : strand.underWay = [] := by
    cases strand <;> first | rfl | cases finished
  refine ⟨stays, ?_, ?_, ?_⟩
  · rw [System.moments, issuedBy, List.flatMap_cons, issues, idle]
    exact unissued
  · rw [System.moments, attemptsOf, List.filterMap_cons_none noAttempt]
    exact unattempted
  · rw [System.moments, questionsOf, List.filterMap_cons_none noQuestion]
    exact unasked

/-- What a refresh has done when it ends with an outcome. -/
inductive RefreshAccount (system : System) (user : UserKey) (principal : Principal)
    (history : List Moment) : Outcome → Prop
  /-- The user was offline when it was requested, and nothing was done. -/
  | offline (offline : system.board.presence.isOnline user = false)
    (silent : Silent system.strands.length history) :
    RefreshAccount system user principal history .noConnections
  /-- It was parked in a slot that was taken, and it has done nothing itself. -/
  | parked (online : system.board.presence.isOnline user = true)
    (taken : system.board.slots.slot user ≠ .idle)
    (silent : Silent system.strands.length history) :
    RefreshAccount system user principal history .coalesced
  /-- It has made one pass after the other, and the outcome is that of the last one. -/
  | swept {earlier : List Sweep} {last : Sweep} {attempts attempts' : List Attempt}
    (online : system.board.presence.isOnline user = true)
    (idle : system.board.slots.slot user = .idle)
    (sweeps : ⟨.reconcile principal, system.board.presence.connections user⟩ ::
      furtherSweeps system.strands.length user history = earlier ++ [last])
    (called : ∀ pass ∈ earlier, pass.Calls system.board.directory)
    (completed : Sweep.Completed system.board.directory (earlier ++ [last])
      (issuedBy system.strands.length history) (attemptsOf system.strands.length history)
      (questionsOf system.strands.length history))
    (attempted : attemptsOf system.strands.length history = attempts ++ attempts' ∧
      (attempts'.map Attempt.operation).Perm (last.operations system.board.directory)) :
    RefreshAccount system user principal history (last.outcome user attempts')

/-- A refresh that has made its passes ends with the outcome of the last one. -/
theorem refreshAccount_of_sweeps {history : List Moment} {outcome : Outcome}
    (online : system.board.presence.isOnline user = true)
    (idle : system.board.slots.slot user = .idle)
    (runs : (Strand.ended (.settled outcome)).Sweeps system.board.directory user
      (⟨.reconcile principal, system.board.presence.connections user⟩ ::
        furtherSweeps system.strands.length user history)
      (issuedBy system.strands.length history) (attemptsOf system.strands.length history)
      (questionsOf system.strands.length history)) :
    RefreshAccount system user principal history outcome := by
  generalize ended : Strand.ended (.settled outcome) = strand at runs
  generalize sweeps : ⟨.reconcile principal, system.board.presence.connections user⟩ ::
    furtherSweeps system.strands.length user history = all at runs
  generalize issued : issuedBy system.strands.length history = operations at runs
  generalize attempted : attemptsOf system.strands.length history = attempts at runs
  generalize asked : questionsOf system.strands.length history = questions at runs
  cases runs with
  | dropped => cases ended
  | runs runs =>
      cases runs with
      | active => cases ended
      | @concluded earlier last issued' issued'' attempts attempts' questions questions' completed
          called one =>
          cases ended
          have perm := one.attempted
          rw [one.issued_eq, List.flatMap_singleton] at perm
          refine .swept online idle sweeps called ?_ ⟨attempted, perm⟩
          rw [issued, attempted, asked]
          exact completed.concat one

/-- A refresh that has ended has given its account. -/
theorem refreshAccount_of_ended (known : principal.user = some user) (rest : List Event)
    {outcome : Outcome}
    (ended : (system.run (.submit (.refresh principal) :: rest)).strands[system.strands.length]? =
      some (.ended (.settled outcome))) :
    RefreshAccount system user principal (system.moments (.submit (.refresh principal) :: rest))
      outcome := by
  have strand := system.strand_of_refresh known
  rw [Strand.submit_eq, Switchboard.submit] at strand
  cases online : system.board.presence.isOnline user with
  | false =>
      rw [online] at strand
      obtain ⟨stays, silent⟩ := silent_of_isOver strand rfl rest
      cases ended.symm.trans stays
      exact .offline online silent
  | true =>
      rw [online, if_pos rfl] at strand
      cases slot : system.board.slots.slot user with
      | running parked =>
          rw [Run.start_of_running _ slot] at strand
          obtain ⟨stays, silent⟩ := silent_of_isOver strand rfl rest
          cases ended.symm.trans stays
          exact .parked online (by simp [slot]) silent
      | idle =>
          obtain ⟨strand, present, runs⟩ := sweeps_run known online slot rest
          cases present.symm.trans ended
          exact refreshAccount_of_sweeps online slot runs

theorem RefreshAccount.silent_of_offline {history : List Moment} {outcome : Outcome}
    (account : RefreshAccount system user principal history outcome)
    (offline : system.board.presence.isOnline user = false) :
    Silent system.strands.length history := by
  cases account with
  | offline offline silent => exact silent
  | parked online => cases offline.symm.trans online
  | swept online => cases offline.symm.trans online

/-- Nobody is found when the user is offline, or by the last pass. -/
theorem RefreshAccount.noConnections_iff {history : List Moment} {outcome : Outcome}
    (account : RefreshAccount system user principal history outcome) :
    outcome = .noConnections ↔
      system.board.presence.isOnline user = false ∨
        system.board.slots.slot user = .idle ∧ ∃ other,
          (⟨.reconcile principal, system.board.presence.connections user⟩ ::
            furtherSweeps system.strands.length user history).getLast? =
              some ⟨.reconcile other, []⟩ := by
  cases account with
  | offline offline => exact iff_of_true rfl (.inl offline)
  | parked online taken =>
      refine iff_of_false nofun ?_
      rintro (offline | ⟨idle, -⟩)
      · cases offline.symm.trans online
      · exact taken idle
  | swept online idle sweeps =>
      rw [Sweep.outcome_eq_noConnections_iff, sweeps, List.getLast?_concat, online, idle]
      simp

/-- If its last pass found nobody, an earlier one has found somebody and done something. -/
theorem RefreshAccount.busy_of_online {history : List Moment} {outcome : Outcome}
    (account : RefreshAccount system user principal history outcome)
    (online : system.board.presence.isOnline user = true) (nobody : outcome = .noConnections) :
    ¬Silent system.strands.length history := by
  rintro ⟨-, unattempted, unasked⟩
  cases account with
  | offline offline => cases offline.symm.trans online
  | parked => cases nobody
  | @swept earlier last attempts attempts' _ idle sweeps called completed attempted =>
      obtain ⟨other, rfl⟩ := (Sweep.outcome_eq_noConnections_iff _ _ _).1 nobody
      cases earlier with
      | nil =>
          have found := congrArg Sweep.found (List.cons.inj sweeps).1
          exact system.board.presence.connections_ne_nil online found
      | cons first earlier =>
          have busy := completed.busy (List.mem_append_left _ List.mem_cons_self)
            (called first List.mem_cons_self)
          exact busy.elim (· unattempted) (· unasked)

/-- A refresh that ends because nobody is found has done nothing exactly if the user was offline when it
was requested.  Otherwise it is its last pass that found nobody, after passes that did. -/
theorem nobody_found_silent_iff_offline (system : System) {principal : Principal} {user : UserKey}
    (known : principal.user = some user) (rest : List Event) {outcome : Outcome}
    (ended : (system.run (.submit (.refresh principal) :: rest)).strands[system.strands.length]? =
      some (.ended (.settled outcome))) :
    RefreshAccount system user principal (system.moments (.submit (.refresh principal) :: rest))
        outcome ∧
      (outcome = .noConnections ↔
        system.board.presence.isOnline user = false ∨
          system.board.slots.slot user = .idle ∧ ∃ other,
            (⟨.reconcile principal, system.board.presence.connections user⟩ ::
              furtherSweeps system.strands.length user
                (system.moments (.submit (.refresh principal) :: rest))).getLast? =
                  some ⟨.reconcile other, []⟩) ∧
      (outcome = .noConnections →
        (Silent system.strands.length (system.moments (.submit (.refresh principal) :: rest)) ↔
          system.board.presence.isOnline user = false)) := by
  have account := refreshAccount_of_ended known rest ended
  refine ⟨account, account.noConnections_iff, fun nobody => ⟨fun silent => ?_, fun offline => ?_⟩⟩
  · exact Bool.eq_false_iff.2 fun online => account.busy_of_online online nobody silent
  · exact account.silent_of_offline offline

end Call

/-- The newsroom with one connection of an editor. -/
def oneEditor : System := quietNewsroom.run [.register firstUser ⟨"c1"⟩]

/-- While an editor is refreshed, another refresh is parked and the connection disconnects; then the
first pass goes on. -/
def desertedRefresh : List Event :=
  [.submit (.refresh editor),
    .disconnect firstUser ⟨"c1"⟩,
    .perform 0 (.question ⟨"news"⟩) .through,
    .perform 0 (.operation (.join ⟨"c1"⟩ ⟨"news"⟩)) .through]

theorem deserted_refresh_in_newsroom :
    (oneEditor.run (.submit (.refresh editor) :: desertedRefresh)).strands[0]? =
        some (.ended (.settled .noConnections)) ∧
      RefreshAccount oneEditor firstUser editor
        (oneEditor.moments (.submit (.refresh editor) :: desertedRefresh)) .noConnections ∧
      ¬Silent 0 (oneEditor.moments (.submit (.refresh editor) :: desertedRefresh)) := by
  have ended : (oneEditor.run (.submit (.refresh editor) :: desertedRefresh)).strands[0]? =
      some (.ended (.settled .noConnections)) := rfl
  obtain ⟨account, -, silent⟩ :=
    nobody_found_silent_iff_offline oneEditor (rfl : editor.user = some firstUser) desertedRefresh
      ended
  have online : oneEditor.board.presence.isOnline firstUser = true := by decide +kernel
  refine ⟨ended, account, fun nothing => ?_⟩
  cases online.symm.trans ((silent rfl).1 nothing)

/-- It is not so that a refresh which ends because nobody is found has done nothing. -/
theorem nobody_found_after_calls :
    ¬∀ (system : System) (principal : Principal) (user : UserKey) (rest : List Event),
      system.Resting user → principal.user = some user →
      (∀ event ∈ rest, ∀ position kept, event ≠ .abandon position kept) →
      (∀ request, .submit request ∈ rest →
        (∃ other, request = .refresh other ∧ other.user = some user) ∨
          request = .revokeUser user ∨
          ∃ other connection, request = .connect other connection ∧ other.user = some user) →
      (system.run (.submit (.refresh principal) :: rest)).strands[system.strands.length]? =
        some (.ended (.settled .noConnections)) →
      Silent system.strands.length (system.moments (.submit (.refresh principal) :: rest)) := by
  intro claim
  have resting : oneEditor.Resting firstUser := ⟨rfl, nofun, nofun⟩
  have silent := claim oneEditor editor firstUser desertedRefresh resting rfl
    (by simp [desertedRefresh])
    (by
      intro request member
      have same : request = .refresh editor := by simpa [desertedRefresh] using member
      exact .inl ⟨editor, same, rfl⟩)
    rfl
  have asked : questionsOf 0 (oneEditor.moments (.submit (.refresh editor) :: desertedRefresh)) ≠
      [] := by decide +kernel
  exact asked silent.2.2

end ChannelMembership
