import Mathlib.Algebra.Order.BigOperators.Group.List
import Mathlib.Algebra.Order.Ring.Nat
import ChannelMembership.Proofs.Access.Authorization
import ChannelMembership.Proofs.Switchboard.Moment

/-!
# Strands come to their end

An answer at a spot of a pass leaves less to be done, and as long as a pass is not over it has a
spot at which an answer is awaited.  So a run whose slot holds nothing parked is over after finitely
many answers, and one that finds parked work goes on with it and is over after that.  Assignments,
leaves and notices have finitely many answers to wait for, too.  In this way every strand can be brought
to its end, whatever the others do.
-/

namespace ChannelMembership

namespace Evaluation

/-- How many answers are missing at most. -/
def left (evaluation : Evaluation) : Nat :=
  (evaluation.lanes.map fun lane => lane.progress.remaining).sum

variable {evaluation : Evaluation}

/-- An answer about a channel that is not decided leaves fewer to be missed. -/
theorem left_answer_lt {lane : Lane} (member : lane ∈ evaluation.lanes) {guard : Guard}
    (asked : lane.progress.asked? = some guard) (granted : Bool) :
    (evaluation.answer lane.channel granted).left < evaluation.left := by
  simp only [left, answer, List.map_map]
  refine List.sum_lt_sum _ _ (fun other _ => ?_) ⟨lane, member, ?_⟩
  · have nearer := other.progress.remaining_answer granted
    by_cases here : other.channel = lane.channel
    · simp only [Function.comp_apply, here, if_true]
      omega
    · simp [here]
  · have nearer := lane.progress.remaining_answer granted
    simp only [Function.comp_apply, if_true]
    cases progress : lane.progress with
    | decided other => simp [progress, Progress.asked?] at asked
    | asking other rest =>
        rw [progress] at nearer
        simp only [Progress.remaining] at nearer ⊢
        omega

/-- As long as an evaluation is not done, there is a channel about which a guard is being asked. -/
theorem exists_undecided (apart : (evaluation.lanes.map Lane.channel).Nodup)
    (going : evaluation.isDone = false) :
    ∃ channel, (evaluation.ask channel).left < evaluation.left := by
  obtain ⟨lane, member, unfinished⟩ := List.all_eq_false.1 going
  have undecided : ∃ guard, lane.progress.asked? = some guard := by
    cases progress : lane.progress with
    | asking guard rest => exact ⟨guard, rfl⟩
    | decided granted => simp [progress, Progress.decision?] at unfinished
  obtain ⟨guard, asked⟩ := undecided
  refine ⟨lane.channel, ?_⟩
  obtain ⟨found, search⟩ : ∃ found,
      evaluation.lanes.find? (fun other => other.channel = lane.channel) = some found :=
    Option.isSome_iff_exists.1 (List.find?_isSome.2 ⟨lane, member, by simp⟩)
  have same : found = lane :=
    List.inj_on_of_nodup_map apart (List.mem_of_find?_eq_some search) member
      (by simpa using List.find?_some search)
  have question : evaluation.asked? lane.channel = some guard := by
    rw [asked?, search, Option.bind_some, same, asked]
  rw [ask, question]
  exact left_answer_lt member asked _

end Evaluation

namespace Batch

theorem Steady.perform {batch : Batch} (steady : batch.Steady) (board : Switchboard)
    (passage : Passage) (operation : Operation) :
    (batch.perform board passage operation).2.Steady := by
  unfold Batch.perform
  split
  · exact steady.complete _ _
  · exact steady

/-- As long as something is under way, there is an operation whose completion leaves less to be done. -/
theorem pending_perform_lt {batch : Batch} (going : batch.isDone = false) :
    ∃ operation, ∀ board passage,
      (batch.perform board passage operation).2.pending.length < batch.pending.length := by
  cases busy : batch.underWay with
  | nil => simp [isDone, busy] at going
  | cons operation rest =>
      have underWay : operation ∈ batch.underWay := busy ▸ List.mem_cons_self
      refine ⟨operation, fun board passage => ?_⟩
      rw [Batch.perform, if_pos underWay]
      rw [pending_complete underWay, pending, List.length_append, List.length_append,
        List.length_erase_of_mem underWay, busy]
      simp

end Batch

namespace Pass

/-- A pass in good order: each channel has one lane, and a batch does not stand still. -/
def Steady : Pass → Prop
  | skipped => True
  | deciding _ _ evaluation => (evaluation.lanes.map Lane.channel).Nodup ∧ evaluation.isDone = false
  | reconciling batch => batch.Steady
  | revoking batch => batch.Steady

/-- How many answers are missing at most. -/
def left : Pass → Nat
  | skipped => 0
  | deciding _ connections evaluation =>
    evaluation.left + connections.length * (2 * evaluation.lanes.length) + 1
  | reconciling batch => batch.pending.length
  | revoking batch => batch.pending.length

theorem length_matrix_le (connections : List Connection) (evaluation : Evaluation) :
    (matrix connections evaluation.partition).length ≤
      connections.length * (2 * evaluation.lanes.length) := by
  have authorized := List.length_filter_le
    (fun lane : Lane => lane.progress.decision? = some true) evaluation.lanes
  have unauthorized := List.length_filter_le
    (fun lane : Lane => lane.progress.decision? = some false) evaluation.lanes
  have whole : (matrix connections evaluation.partition).length = connections.length *
      (evaluation.partition.authorized.length + evaluation.partition.unauthorized.length) := by
    simp [matrix, List.length_flatMap]
  rw [whole]
  refine Nat.mul_le_mul_left _ ?_
  simp only [Evaluation.partition, List.length_map]
  omega

/-- Issuing the operations takes no more answers than were accounted for. -/
theorem left_settle_lt {board : Switchboard} {user : UserKey} {connections : List Connection}
    {evaluation : Evaluation} {bound : Nat}
    (nearer : evaluation.left + connections.length * (2 * evaluation.lanes.length) + 1 < bound) :
    (settle board (deciding user connections evaluation)).left < bound := by
  simp only [settle]
  split
  · have short := length_matrix_le connections evaluation
    simp only [left, Batch.pending_start]
    omega
  · exact nearer

theorem steady_settle (board : Switchboard) (user : UserKey) (connections : List Connection)
    {evaluation : Evaluation} (apart : (evaluation.lanes.map Lane.channel).Nodup) :
    (settle board (deciding user connections evaluation)).Steady := by
  simp only [settle]
  split
  · exact Batch.steady_start _ _ _
  · rename_i going
    exact ⟨apart, Bool.eq_false_iff.2 going⟩

theorem steady_start (board : Switchboard) (user : UserKey) (work : Work) :
    (start board user work).2.Steady := by
  cases work with
  | reconcile principal =>
      simp only [start]
      split
      · trivial
      · refine steady_settle board user _ ?_
        rw [(Evaluation.faithful_start board.directory principal).channels_eq]
        exact board.directory.nodup_channels
  | revoke => exact Batch.steady_start _ _ _

theorem Steady.perform {pass : Pass} (steady : pass.Steady) (board : Switchboard)
    (passage : Passage) (spot : Spot) : (pass.perform board passage spot).2.Steady := by
  cases pass with
  | skipped => cases spot <;> trivial
  | deciding user connections evaluation =>
      cases spot with
      | question channel =>
          refine steady_settle board user connections ?_
          rw [Evaluation.channels_ask]
          exact steady.1
      | _ => exact steady
  | reconciling batch =>
      cases spot with
      | operation operation => exact Batch.Steady.perform steady board passage operation
      | _ => exact steady
  | revoking batch =>
      cases spot with
      | operation operation => exact Batch.Steady.perform steady board passage operation
      | _ => exact steady

/-- As long as a pass is not over, there is a spot at which an answer leaves less to be done. -/
theorem exists_answer {pass : Pass} (steady : pass.Steady) (going : pass.outcome? = none) :
    ∃ spot, ∀ board passage, (pass.perform board passage spot).2.left < pass.left := by
  cases pass with
  | skipped => cases going
  | deciding user connections evaluation =>
      obtain ⟨channel, nearer⟩ := Evaluation.exists_undecided steady.1 steady.2
      have same : (evaluation.ask channel).lanes.length = evaluation.lanes.length := by
        rw [← List.length_map Lane.channel, Evaluation.channels_ask, List.length_map]
      refine ⟨.question channel, fun board passage => left_settle_lt ?_⟩
      rw [same]
      simp only [left]
      omega
  | reconciling batch =>
      have unfinished : batch.isDone = false := by simpa [outcome?] using going
      obtain ⟨operation, nearer⟩ := Batch.pending_perform_lt unfinished
      exact ⟨.operation operation, nearer⟩
  | revoking batch =>
      have unfinished : batch.isDone = false := by simpa [outcome?] using going
      obtain ⟨operation, nearer⟩ := Batch.pending_perform_lt unfinished
      exact ⟨.operation operation, nearer⟩

end Pass

namespace Assignment

/-- An assignment in good order: each channel has one lane, and its batch does not stand still. -/
def Steady : Assignment → Prop
  | deciding _ _ evaluation => (evaluation.lanes.map Lane.channel).Nodup ∧ evaluation.isDone = false
  | joining _ batch => batch.Steady

/-- How many answers are missing at most. -/
def left : Assignment → Nat
  | deciding _ _ evaluation => evaluation.left + evaluation.lanes.length + 1
  | joining _ batch => batch.pending.length

theorem left_settle_lt {board : Switchboard} {user : UserKey} {connection : Connection}
    {evaluation : Evaluation} {bound : Nat}
    (nearer : evaluation.left + evaluation.lanes.length + 1 < bound) :
    (settle board (deciding user connection evaluation)).left < bound := by
  simp only [settle]
  split
  · have short := List.length_filter_le
      (fun lane : Lane => lane.progress.decision? = some true) evaluation.lanes
    simp only [left, Batch.pending_start, Evaluation.partition, List.length_map]
    omega
  · exact nearer

theorem steady_settle (board : Switchboard) (user : UserKey) (connection : Connection)
    {evaluation : Evaluation} (apart : (evaluation.lanes.map Lane.channel).Nodup) :
    (settle board (deciding user connection evaluation)).Steady := by
  simp only [settle]
  split
  · exact Batch.steady_start _ _ _
  · rename_i going
    exact ⟨apart, Bool.eq_false_iff.2 going⟩

theorem steady_start (board : Switchboard) (user : UserKey) (principal : Principal)
    (connection : Connection) : (start board user principal connection).2.Steady := by
  refine steady_settle board user connection ?_
  rw [(Evaluation.faithful_start board.directory principal).channels_eq]
  exact board.directory.nodup_channels

theorem Steady.perform {assignment : Assignment} (steady : assignment.Steady)
    (board : Switchboard) (passage : Passage) (spot : Spot) :
    (assignment.perform board passage spot).2.Steady := by
  cases assignment with
  | deciding user connection evaluation =>
      cases spot with
      | question channel =>
          refine steady_settle board user connection ?_
          rw [Evaluation.channels_ask]
          exact steady.1
      | _ => exact steady
  | joining connection batch =>
      cases spot with
      | operation operation => exact Batch.Steady.perform steady board passage operation
      | _ => exact steady

/-- As long as an assignment is not over, there is a spot at which an answer leaves less to be done. -/
theorem exists_answer {assignment : Assignment} (steady : assignment.Steady)
    (going : assignment.report? = none) :
    ∃ spot, ∀ board passage, (assignment.perform board passage spot).2.left < assignment.left := by
  cases assignment with
  | deciding user connection evaluation =>
      obtain ⟨channel, nearer⟩ := Evaluation.exists_undecided steady.1 steady.2
      have same : (evaluation.ask channel).lanes.length = evaluation.lanes.length := by
        rw [← List.length_map Lane.channel, Evaluation.channels_ask, List.length_map]
      refine ⟨.question channel, fun board passage => left_settle_lt ?_⟩
      rw [same]
      simp only [left]
      omega
  | joining connection batch =>
      have unfinished : batch.isDone = false := by simpa [report?] using going
      obtain ⟨operation, nearer⟩ := Batch.pending_perform_lt unfinished
      exact ⟨.operation operation, nearer⟩

end Assignment

namespace Slots

/-- Whoever finds parked work takes it out and keeps the slot. -/
theorem next_of_parked {slots : Slots} {ticket : Ticket} {work : Work}
    (parked : (slots.next ticket).2.2 = some work) :
    slots.next ticket = (slots.set ticket.user (.running none), ticket, some work) := by
  unfold next at parked ⊢
  split
  · rename_i armed
    rw [if_pos armed] at parked
    split at parked
    · cases parked
      simp
    · cases parked
    · cases parked
  · rename_i spent
    rw [if_neg spent] at parked
    cases parked

theorem next_set_running_none (slots : Slots) (ticket : Ticket) :
    ((slots.set ticket.user (.running none)).next ticket).2.2 = none := by
  unfold next
  split
  · simp
  · rfl

end Slots

/-- A run under way that is in good order. -/
def RunState.Steady : RunState → Prop
  | active run => run.pass.Steady ∧ run.pass.outcome? = none
  | «over» _ => True

namespace Run

/-- Nothing is parked in the slot that a run owns. -/
def Unparked (run : Run) (board : Switchboard) : Prop := (board.slots.next run.ticket).2.2 = none

theorem advance_of_going {run : Run} (going : run.pass.outcome? = none) (board : Switchboard) :
    run.advance board = (board, .active run) := by
  rw [advance, going]

/-- When its pass is over, a run is over too, unless it finds parked work; then nothing is parked
any more. -/
theorem advance_of_outcome (run : Run) {outcome : Outcome}
    (ended : run.pass.outcome? = some outcome) (board : Switchboard) :
    (∃ last, (run.advance board).2 = .over last) ∨
      ¬run.Unparked board ∧ ∃ successor, (run.advance board).2 = .active successor ∧
        successor.Unparked (run.advance board).1 := by
  cases parked : (board.slots.next run.ticket).2.2 with
  | none =>
      refine .inl ⟨outcome, ?_⟩
      simp only [advance, ended, parked]
  | some work =>
      simp only [advance, ended, Slots.next_of_parked parked, Unparked]
      split
      · refine .inr ⟨Option.some_ne_none work, _, rfl, ?_⟩
        rw [Pass.start_board]
        exact Slots.next_set_running_none _ _
      · exact .inl ⟨_, rfl⟩

theorem steady_advance (run : Run) (steady : run.pass.Steady) (board : Switchboard) :
    (run.advance board).2.Steady := by
  unfold advance
  split
  · rename_i going
    exact ⟨steady, going⟩
  · simp only
    split
    · trivial
    · split
      · rename_i going
        exact ⟨Pass.steady_start _ _ _, going⟩
      · trivial

theorem steady_start (board : Switchboard) (user : UserKey) (work : Work) :
    (start board user work).2.Steady := by
  unfold start
  split
  · trivial
  · exact steady_advance _ (Pass.steady_start _ _ _) _

theorem steady_perform {run : Run} (steady : run.pass.Steady) (board : Switchboard)
    (passage : Passage) (spot : Spot) : (run.perform board passage spot).2.Steady :=
  steady_advance _ (steady.perform board passage spot) _

end Run

namespace Switchboard

theorem steady_submit (board : Switchboard) (user : UserKey) (work : Work) :
    (board.submit user work).2.Steady := by
  unfold submit
  split
  · exact Run.steady_start _ _ _
  · trivial

end Switchboard

namespace Strand

/-- A strand in good order: as long as it is not over, there is an answer that brings it nearer to its
end. -/
inductive Steady : Strand → Prop
  /-- The user is waiting to be looked at. -/
  | queued (user : UserKey) : Steady (queued user)
  /-- The account store is being asked. -/
  | lookingUp (user : UserKey) : Steady (lookingUp user)
  /-- A run is under way. -/
  | running {run : Run} (failure : Option LookupError)
    (steady : (RunState.active run).Steady) : Steady (running run failure)
  /-- A connection is being assigned its channels. -/
  | assigning (user : UserKey) {assignment : Assignment} (limited : Bool)
    (steady : assignment.Steady) : Steady (ofAssignment user assignment limited)
  /-- A connection is leaving every known channel. -/
  | leaving {batch : Batch} (expired : Bool) (steady : batch.Steady) :
    Steady (ofLeaves batch expired)
  /-- A notice is being published. -/
  | routing (notice : Notice) : Steady (routing notice)
  /-- A notice is being handed to the connections of a user. -/
  | circulating (circular : Circular) : Steady (ofCircular circular)
  /-- Nothing is left to do. -/
  | finished {strand : Strand} (ended : strand.isOver = true) : Steady strand

theorem steady_ofRunState {state : RunState} (steady : state.Steady)
    (failure : Option LookupError) : (ofRunState failure state).Steady := by
  cases state with
  | active run => exact .running failure steady
  | «over» outcome => cases failure <;> exact .finished rfl

theorem steady_submit (board : Switchboard) (user : UserKey) (work : Work)
    (failure : Option LookupError) : (submit board user work failure).2.Steady := by
  rw [submit_eq]
  exact steady_ofRunState (board.steady_submit _ _) _

theorem steady_visit (board : Switchboard) (user : UserKey) :
    (visit board user).Steady := by
  unfold visit
  split
  · exact .lookingUp user
  · exact .finished rfl

theorem steady_resolve (board : Switchboard) (user : UserKey) :
    (resolve board user).2.Steady := by
  rw [resolve_eq]
  exact steady_submit _ _ _ _

theorem steady_leaveAll (board : Switchboard) (user : UserKey) (connection : Connection)
    (expired : Bool) : (leaveAll board user connection expired).2.Steady :=
  .leaving expired (Batch.steady_start _ _ _)

/-- A request begins in good order. -/
theorem steady_begin (request : Request) (board : Switchboard) :
    ∀ strand ∈ (request.begin board).2, strand.Steady := by
  intro strand member
  cases request with
  | connect principal connection =>
      simp only [Request.begin] at member
      split at member <;> cases List.mem_singleton.1 member
      · exact .finished rfl
      · exact .assigning _ _ (Assignment.steady_start _ _ _ _)
  | change audience =>
      obtain ⟨user, -, rfl⟩ := List.mem_map.1 member
      exact .queued user
  | assign principal connection =>
      simp only [Request.begin] at member
      split at member <;> cases List.mem_singleton.1 member
      · exact .finished rfl
      · exact .assigning _ _ (Assignment.steady_start _ _ _ _)
  | refresh principal =>
      simp only [Request.begin] at member
      split at member <;> cases List.mem_singleton.1 member
      · exact .finished rfl
      · exact steady_submit _ _ _ _
  | revokeUser user =>
      cases List.mem_singleton.1 member
      exact steady_submit _ _ _ _
  | revokeConnection user connection =>
      cases List.mem_singleton.1 member
      exact steady_leaveAll _ _ _ _
  | route notice =>
      simp only [Request.begin] at member
      split at member <;> cases List.mem_singleton.1 member
      · exact .routing notice
      · exact .finished rfl
  | circulate notice user =>
      cases List.mem_singleton.1 member
      exact .circulating _

variable {strand : Strand}

theorem steady_perform_ofAssignment (user : UserKey) {assignment : Assignment} (limited : Bool)
    (steady : assignment.Steady) (board : Switchboard) (passage : Passage) (spot : Spot) :
    ((ofAssignment user assignment limited).perform board passage spot).2.Steady := by
  cases going : assignment.report? with
  | none =>
      rw [ofAssignment, going]
      exact .assigning user limited (steady.perform board passage spot)
  | some report =>
      rw [ofAssignment, going]
      exact .finished rfl

theorem steady_perform_ofLeaves {batch : Batch} (expired : Bool) (steady : batch.Steady)
    (board : Switchboard) (passage : Passage) (spot : Spot) :
    ((ofLeaves batch expired).perform board passage spot).2.Steady := by
  by_cases done : batch.isDone = true
  · rw [ofLeaves, if_pos done]
    exact .finished rfl
  · have good := Steady.leaving expired steady
    rw [ofLeaves, if_neg done] at good ⊢
    cases spot with
    | operation operation =>
        exact .leaving expired (Batch.Steady.perform steady board passage operation)
    | _ => exact good

theorem steady_perform_ofCircular (circular : Circular) (board : Switchboard) (passage : Passage)
    (spot : Spot) : ((ofCircular circular).perform board passage spot).2.Steady := by
  by_cases served : circular.pending.isEmpty = true
  · rw [ofCircular, if_pos served]
    exact .finished rfl
  · have good := Steady.circulating circular
    rw [ofCircular, if_neg served] at good ⊢
    cases spot with
    | copy connection => exact .circulating _
    | _ => exact good

/-- A strand goes on in good order. -/
theorem Steady.perform (steady : strand.Steady) (board : Switchboard) (passage : Passage)
    (spot : Spot) : (strand.perform board passage spot).2.Steady := by
  cases steady with
  | queued user => exact .queued user
  | lookingUp user =>
      cases spot with
      | account => exact steady_resolve board user
      | _ => exact .lookingUp user
  | running failure steady =>
      exact steady_ofRunState (Run.steady_perform steady.1 board passage spot) failure
  | assigning user limited steady =>
      exact steady_perform_ofAssignment user limited steady board passage spot
  | leaving expired steady => exact steady_perform_ofLeaves expired steady board passage spot
  | routing notice =>
      cases spot with
      | publication =>
          simp only [Strand.perform]
          split <;> exact .finished rfl
      | _ => exact .routing notice
  | circulating circular => exact steady_perform_ofCircular circular board passage spot
  | finished ended =>
      rw [perform_of_isOver ended]
      exact .finished ended

theorem Steady.expire (steady : strand.Steady) (board : Switchboard) :
    (strand.expire board).2.Steady := by
  cases strand with
  | assigning user assignment limited =>
      cases limited with
      | true => exact steady_leaveAll _ _ _ _
      | false => exact steady
  | _ => exact steady

/-- Whatever happens, a strand stays in good order. -/
theorem Steady.next (steady : strand.Steady) (moment : Moment) {position : Nat}
    (present : moment.system.strands[position]? = some strand) :
    ∃ after, moment.next.strands[position]? = some after ∧ after.Steady := by
  obtain ⟨after, present', change⟩ := moment.strand_next present
  refine ⟨after, present', ?_⟩
  rcases change with rfl | ⟨spot, passage, -, rfl⟩ | ⟨user, -, rfl⟩ | rfl | ⟨kept, -, rfl⟩
  · exact steady
  · exact steady.perform _ passage spot
  · exact steady_visit _ user
  · exact steady.expire _
  · exact .finished (isOver_abandon _ _)

/-- What becomes of a strand when nothing but its own answers come in, over the link. -/
def answered (strand : Strand) (board : Switchboard) (spots : List Spot) : Switchboard × Strand :=
  spots.foldl (fun moved spot => moved.2.perform moved.1 .through spot) (board, strand)

/-- Its own answers bring a strand to its end. -/
def Ends (strand : Strand) (board : Switchboard) : Prop :=
  ∃ spots, (strand.answered board spots).2.isOver = true

variable {board : Switchboard}

theorem ends_of_perform (spot : Spot)
    (ends : (strand.perform board .through spot).2.Ends (strand.perform board .through spot).1) :
    strand.Ends board := by
  obtain ⟨spots, finished⟩ := ends
  exact ⟨spot :: spots, finished⟩

theorem ends_of_isOver (finished : strand.isOver = true) : strand.Ends board := ⟨[], finished⟩

theorem isOver_ofRunState (failure : Option LookupError) (outcome : Outcome) :
    (ofRunState failure (.over outcome)).isOver = true := by
  cases failure <;> rfl

/-- A run ends if nothing is parked in its slot, or if whoever goes on with parked work ends. -/
theorem ends_of_successors {run : Run} {failure : Option LookupError}
    (steady : (RunState.active run).Steady)
    (successors : run.Unparked board ∨ ∀ {successor : Run} {board : Switchboard},
      (RunState.active successor).Steady → successor.Unparked board →
        (running successor failure).Ends board) :
    (running run failure).Ends board := by
  induction left : run.pass.left using Nat.strong_induction_on generalizing run board with
  | h missing induction =>
      obtain ⟨spot, nearer⟩ := Pass.exists_answer steady.1 steady.2
      refine ends_of_perform spot ?_
      have fewer := nearer board .through
      have good := steady.1.perform board .through spot
      have same : ∀ ticket, (run.pass.perform board .through spot).1.slots.next ticket =
          board.slots.next ticket := by
        rw [Pass.perform_board]
        exact fun ticket => rfl
      simp only [Strand.perform, Run.perform_eq]
      generalize run.pass.perform board .through spot = answer at good fewer same ⊢
      obtain ⟨board', pass⟩ := answer
      have whose : (⟨run.ticket, run.work, pass⟩ : Run).Unparked board' ↔ run.Unparked board := by
        rw [Run.Unparked, same, Run.Unparked]
      cases ended : pass.outcome? with
      | none =>
          rw [Run.advance_of_going ended]
          exact induction _ (left ▸ fewer) ⟨good, ended⟩ (successors.imp_left whose.2) rfl
      | some outcome =>
          have later := Run.steady_advance ⟨run.ticket, run.work, pass⟩ good board'
          rcases Run.advance_of_outcome ⟨run.ticket, run.work, pass⟩ ended board' with
            ⟨last, ended⟩ | ⟨found, successor, active, unparked⟩
          · rw [ended]
            exact ends_of_isOver (isOver_ofRunState failure last)
          · rw [active] at later ⊢
            exact successors.resolve_left (fun none => found (whose.2 none)) later unparked

/-- Every run ends: what it finds parked, it finds once. -/
theorem ends_running {run : Run} (failure : Option LookupError)
    (steady : (RunState.active run).Steady) : (running run failure).Ends board :=
  ends_of_successors steady (.inr fun steady' unparked =>
    ends_of_successors steady' (.inl unparked))

theorem ends_ofRunState {state : RunState} (steady : state.Steady)
    (failure : Option LookupError) : (ofRunState failure state).Ends board := by
  cases state with
  | active run => exact ends_running failure steady
  | «over» outcome => exact ends_of_isOver (isOver_ofRunState failure outcome)

theorem ends_lookingUp (board : Switchboard) (user : UserKey) : (lookingUp user).Ends board := by
  refine ends_of_perform .account ?_
  simp only [perform, resolve_eq, submit_eq]
  exact ends_ofRunState (board.steady_submit _ _) _

theorem ends_visit (board : Switchboard) (user : UserKey) : (visit board user).Ends board := by
  unfold visit
  split
  · exact ends_lookingUp board user
  · exact ends_of_isOver rfl

/-- Its own answers bring a batch of leaves to its end. -/
theorem ends_ofLeaves {batch : Batch} (expired : Bool) (board : Switchboard) :
    (ofLeaves batch expired).Ends board := by
  induction left : batch.pending.length using Nat.strong_induction_on generalizing batch board with
  | h missing induction =>
      by_cases done : batch.isDone = true
      · rw [ofLeaves, if_pos done]
        exact ends_of_isOver rfl
      · obtain ⟨operation, nearer⟩ := Batch.pending_perform_lt (Bool.eq_false_iff.2 done)
        rw [ofLeaves, if_neg done]
        exact ends_of_perform (.operation operation)
          (induction _ (left ▸ nearer board .through) _ rfl)

/-- Its own answers bring an assignment to its end. -/
theorem ends_ofAssignment (user : UserKey) {assignment : Assignment} (limited : Bool)
    (steady : assignment.Steady) (board : Switchboard) :
    (ofAssignment user assignment limited).Ends board := by
  induction left : assignment.left using Nat.strong_induction_on generalizing assignment board with
  | h missing induction =>
      cases going : assignment.report? with
      | some report =>
          rw [ofAssignment, going]
          exact ends_of_isOver (by cases limited <;> rfl)
      | none =>
          obtain ⟨spot, nearer⟩ := Assignment.exists_answer steady going
          rw [ofAssignment, going]
          exact ends_of_perform spot
            (induction _ (left ▸ nearer board .through) (steady.perform board .through spot) _ rfl)

theorem ends_routing (notice : Notice) (board : Switchboard) : (routing notice).Ends board := by
  refine ends_of_perform .publication (ends_of_isOver ?_)
  simp only [perform]
  split <;> rfl

/-- Its own answers bring a notice to the last connection. -/
theorem ends_ofCircular (circular : Circular) (board : Switchboard) :
    (ofCircular circular).Ends board := by
  induction many : circular.pending.length generalizing circular board with
  | zero => exact ends_of_isOver (by simp [ofCircular, List.length_eq_zero_iff.1 many, isOver])
  | succ fewer induction =>
      obtain ⟨first, rest, pending⟩ := List.exists_cons_of_length_eq_add_one many
      have waits : ofCircular circular = circulating circular := by simp [ofCircular, pending]
      rw [waits]
      have served : (circular.perform board .through first).2.pending = rest := by
        simp [Circular.perform, pending]
      rw [pending, List.length_cons, Nat.add_right_cancel_iff] at many
      exact ends_of_perform (.copy first) (induction _ _ (served ▸ many))

end Strand

/-- An event by which one strand goes on: its user is looked at, or an answer comes in. -/
inductive Event.Advances (position : Nat) : Event → Prop
  /-- The user is looked at. -/
  | visit : Advances position (.visit position)
  /-- An answer comes in over the link. -/
  | answer (spot : Spot) : Advances position (.perform position spot .through)

namespace System

variable {system : System} {position : Nat} {strand : Strand}

/-- A strand has come to its end. -/
def Finished (system : System) (position : Nat) : Prop :=
  ∃ strand, system.strands[position]? = some strand ∧ strand.isOver = true

theorem Finished.isOver (finished : system.Finished position) : system.isOver position = true := by
  obtain ⟨strand, found, ended⟩ := finished
  rw [System.isOver, found]
  exact ended

theorem Finished.step (finished : system.Finished position) (event : Event) :
    (system.step event).Finished position := by
  obtain ⟨strand, found, ended⟩ := finished
  exact ⟨strand, @Moment.strand_next_of_isOver ⟨system, event⟩ _ _ found ended, ended⟩

theorem Finished.run (finished : system.Finished position) (events : List Event) :
    (system.run events).Finished position := by
  obtain ⟨strand, found, ended⟩ := finished
  exact ⟨strand, strand_run_of_isOver found ended events, ended⟩

theorem put_self (found : system.strands[position]? = some strand) :
    system.put position (system.board, strand) = system := by
  obtain ⟨inside, same⟩ := List.getElem?_eq_some_iff.1 found
  rw [put, ← same, List.set_getElem_self inside]

theorem put_put (system : System) (position : Nat) (first second : Switchboard × Strand) :
    (system.put position first).put position second = system.put position second := by
  simp only [put, List.set_set]

theorem getElem?_put_self (found : system.strands[position]? = some strand)
    (moved : Switchboard × Strand) :
    (system.put position moved).strands[position]? = some moved.2 :=
  List.getElem?_set_self (List.getElem?_eq_some_iff.1 found).1

theorem run_answers (found : system.strands[position]? = some strand) (spots : List Spot) :
    system.run (spots.map fun spot => .perform position spot .through) =
      system.put position (strand.answered system.board spots) := by
  induction spots generalizing system strand with
  | nil => exact (put_self found).symm
  | cons spot rest induction =>
      have first : system.step (.perform position spot .through) =
          system.put position (strand.perform system.board .through spot) := by
        simp only [step, found]
      rw [List.map_cons, run_cons, first, induction (getElem?_put_self found _), put_put]
      rfl

/-- A strand that its own answers bring to its end can be brought there, and nothing else happens than
what it does to the shared state. -/
theorem exists_answers (found : system.strands[position]? = some strand)
    (ends : strand.Ends system.board) :
    ∃ events moved, (∀ event ∈ events, event.Advances position) ∧
      system.run events = system.put position moved ∧ moved.2.isOver = true := by
  obtain ⟨spots, ended⟩ := ends
  refine ⟨_, _, fun event member => ?_, run_answers found spots, ended⟩
  obtain ⟨spot, -, rfl⟩ := List.mem_map.1 member
  exact .answer spot

/-- A strand in good order can be brought to its end, and nothing else happens than what it does to the
shared state. -/
theorem exists_finish (found : system.strands[position]? = some strand)
    (steady : strand.Steady) :
    ∃ events moved, (∀ event ∈ events, event.Advances position) ∧
      system.run events = system.put position moved ∧ moved.2.isOver = true := by
  cases steady with
  | queued user =>
      have visited : system.step (.visit position) =
          system.put position (system.board, Strand.visit system.board user) := by
        simp only [step, found]
      obtain ⟨events, moved, advances, same, ended⟩ :=
        exists_answers (getElem?_put_self found (system.board, Strand.visit system.board user))
          (Strand.ends_visit system.board user)
      refine ⟨.visit position :: events, moved, ?_, ?_, ended⟩
      · simpa using ⟨.visit, advances⟩
      · rw [run_cons, visited, same, put_put]
  | lookingUp user => exact exists_answers found (Strand.ends_lookingUp system.board user)
  | running failure steady => exact exists_answers found (Strand.ends_running failure steady)
  | assigning user limited steady =>
      exact exists_answers found (Strand.ends_ofAssignment user limited steady system.board)
  | leaving expired steady => exact exists_answers found (Strand.ends_ofLeaves expired system.board)
  | routing notice => exact exists_answers found (Strand.ends_routing notice system.board)
  | circulating circular =>
      exact exists_answers found (Strand.ends_ofCircular circular system.board)
  | finished ended => exact exists_answers found (Strand.ends_of_isOver ended)

theorem exists_finished (found : system.strands[position]? = some strand)
    (steady : strand.Steady) :
    ∃ events, (∀ event ∈ events, event.Advances position) ∧
      (system.run events).Finished position := by
  obtain ⟨events, moved, advances, same, ended⟩ := exists_finish found steady
  refine ⟨events, advances, moved.2, ?_, ended⟩
  rw [same]
  exact getElem?_put_self found moved

/-- A strand in good order stays so. -/
theorem steady_run_of_strand (found : system.strands[position]? = some strand)
    (steady : strand.Steady) (events : List Event) :
    ∃ after, (system.run events).strands[position]? = some after ∧ after.Steady := by
  induction events generalizing system strand with
  | nil => exact ⟨strand, found, steady⟩
  | cons event rest induction =>
      obtain ⟨after, found, steady⟩ := steady.next ⟨system, event⟩ found
      exact induction found steady

/-- Strands in good order can be brought to their end, one after the other. -/
theorem exists_finish_all {positions : List Nat}
    (steady : ∀ position ∈ positions, ∃ strand,
      system.strands[position]? = some strand ∧ strand.Steady) :
    ∃ events, (∀ event ∈ events, ∃ position ∈ positions, event.Advances position) ∧
      (system.run events).workers = system.workers ∧
      (∀ position ∈ positions, (system.run events).Finished position) := by
  induction positions generalizing system with
  | nil => exact ⟨[], nofun, rfl, nofun⟩
  | cons position rest induction =>
      obtain ⟨strand, found, good⟩ := steady position List.mem_cons_self
      obtain ⟨events, moved, advances, same, isOver⟩ := exists_finish found good
      have ended : (system.run events).Finished position :=
        ⟨moved.2, same ▸ getElem?_put_self found moved, isOver⟩
      obtain ⟨later, advances', workers, finished⟩ := @induction (system.run events) (by
        intro other member
        rw [same]
        by_cases here : other = position
        · subst here
          exact ⟨moved.2, getElem?_put_self found moved, .finished isOver⟩
        · obtain ⟨strand', found', good'⟩ := steady other (List.mem_cons_of_mem _ member)
          exact ⟨strand', (List.getElem?_set_ne (Ne.symm here)).trans found', good'⟩)
      refine ⟨events ++ later, ?_, ?_, ?_⟩
      · intro event member
        rcases List.mem_append.1 member with first | second
        · exact ⟨position, List.mem_cons_self, advances event first⟩
        · obtain ⟨other, among, moves⟩ := advances' event second
          exact ⟨other, List.mem_cons_of_mem _ among, moves⟩
      · rw [run_append, workers, same]
        rfl
      · intro other member
        rw [run_append]
        rcases List.mem_cons.1 member with rfl | among
        · exact ended.run later
        · exact finished other among

/-- Every strand is in good order. -/
def Steady (system : System) : Prop := ∀ strand ∈ system.strands, strand.Steady

/-- Whatever happens, every strand stays in good order. -/
theorem Steady.step (steady : system.Steady) (event : Event) : (system.step event).Steady := by
  have append {later : List Strand} (good : ∀ strand ∈ later, strand.Steady) :
      ∀ strand ∈ system.strands ++ later, strand.Steady := fun strand member =>
    (List.mem_append.1 member).elim (steady strand) (good strand)
  have set (position : Nat) {after : Strand} (good : after.Steady) :
      ∀ strand ∈ system.strands.set position after, strand.Steady := fun strand member =>
    (List.mem_or_eq_of_mem_set member).elim (steady strand) fun same => same ▸ good
  have found {position : Nat} {strand : Strand}
      (here : system.strands[position]? = some strand) : strand.Steady :=
    steady strand (List.mem_of_getElem? here)
  cases event with
  | submit request => exact append (Strand.steady_begin request system.board)
  | visit position =>
      simp only [System.step]
      split
      · exact set position (Strand.steady_visit _ _)
      · exact steady
  | perform position spot passage =>
      simp only [System.step]
      split
      · rename_i strand here
        exact set position ((found here).perform _ _ _)
      · exact steady
  | expire position =>
      simp only [System.step]
      split
      · rename_i strand here
        exact set position ((found here).expire _)
      · exact steady
  | abandon position kept =>
      simp only [System.step]
      split
      · cases kept <;> exact set position (.finished (Strand.isOver_abandon _ _))
      · exact steady
  | resume =>
      simp only [System.step]
      split
      · exact steady
      · refine append fun strand member => ?_
        cases List.mem_singleton.1 member
        exact Strand.steady_ofRunState (Run.steady_start _ _ _) none
  | proceed worker =>
      simp only [System.step]
      split
      · simp only [System.proceed]
        split
        · split <;> exact steady
        · exact append (Strand.steady_begin (.change _) system.board)
        · split <;> exact steady
      · exact steady
  | _ => exact steady

theorem Steady.run (steady : system.Steady) (events : List Event) :
    (system.run events).Steady := by
  induction events generalizing system with
  | nil => exact steady
  | cons event rest induction => exact induction (steady.step event)

/-- Strands that go on do not begin others. -/
theorem length_run_of_advances {events : List Event}
    (advances : ∀ event ∈ events, ∃ position, event.Advances position) :
    (system.run events).strands.length = system.strands.length := by
  induction events generalizing system with
  | nil => rfl
  | cons event rest induction =>
      rw [run_cons, induction fun other member => advances other (List.mem_cons_of_mem _ member)]
      obtain ⟨position, advances⟩ := advances event List.mem_cons_self
      cases advances with
      | visit =>
          simp only [step]
          split
          · exact List.length_set
          · rfl
      | answer spot =>
          simp only [step]
          split
          · exact List.length_set
          · rfl

/-- All strands of a system in good order can be brought to their end. -/
theorem Steady.exists_finish_all (steady : system.Steady) :
    ∃ events, (∀ event ∈ events, ∃ position, event.Advances position) ∧
      ∀ strand ∈ (system.run events).strands, strand.isOver = true := by
  obtain ⟨events, advances, -, finished⟩ :=
    @System.exists_finish_all system (List.range system.strands.length) fun position member => by
      have inside := List.mem_range.1 member
      exact ⟨_, List.getElem?_eq_getElem inside, steady _ (List.getElem_mem inside)⟩
  have advance (event : Event) (member : event ∈ events) : ∃ position, event.Advances position := by
    obtain ⟨position, -, advances⟩ := advances event member
    exact ⟨position, advances⟩
  refine ⟨events, advance, fun strand member => ?_⟩
  obtain ⟨position, found⟩ := List.mem_iff_getElem?.1 member
  have inside := (List.getElem?_eq_some_iff.1 found).1
  rw [length_run_of_advances advance] at inside
  obtain ⟨strand', found', ended⟩ := finished position (List.mem_range.2 inside)
  cases found.symm.trans found'
  exact ended

end System
end ChannelMembership
