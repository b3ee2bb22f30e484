import ChannelMembership.Proofs.Routing
import ChannelMembership.Proofs.Switchboard.Account

/-!
# What a strand issues

An operation is issued when it comes under way.  So the history of a strand can be read off the moments
of the system: the operations that it issues, those of them that it attempts, and the questions that it
puts to guards.  Moments that do not concern the strand add nothing to its history.
-/

namespace ChannelMembership

/-- The operation that is awaited at a spot. -/
def Spot.operation? : Spot → Option Operation
  | .operation awaited => some awaited
  | _ => none

/-- The question that is put to a guard. -/
def Inquiry.question? : Inquiry → Option (Guard × Channel)
  | .guard asked channel => some (asked, channel)
  | _ => none

/-- The operations of a pass that are under way. -/
def Pass.underWay (pass : Pass) : List Operation := pass.spots.filterMap Spot.operation?

/-- The operations of a strand that are under way. -/
def Strand.underWay (strand : Strand) : List Operation := strand.spots.filterMap Spot.operation?

theorem Spot.filterMap_operation? (operations : List Operation) :
    (operations.map Spot.operation).filterMap Spot.operation? = operations := by
  simp [List.filterMap_map, Function.comp_def, Spot.operation?]

theorem Spot.filterMap_question (channels : List Channel) :
    (channels.map Spot.question).filterMap Spot.operation? = [] := by
  simp [List.filterMap_map, Function.comp_def, Spot.operation?]

namespace Pass

variable (user : UserKey) (found : List Connection) (evaluation : Evaluation) (batch : Batch)

@[simp]
theorem underWay_skipped : skipped.underWay = [] := rfl

@[simp]
theorem underWay_deciding : (deciding user found evaluation).underWay = [] :=
  Spot.filterMap_question _

@[simp]
theorem underWay_reconciling : (reconciling batch).underWay = batch.underWay :=
  Spot.filterMap_operation? _

@[simp]
theorem underWay_revoking : (revoking batch).underWay = batch.underWay :=
  Spot.filterMap_operation? _

end Pass

namespace Strand

variable (user : UserKey) (connection : Connection) (evaluation : Evaluation) (batch : Batch)
  (limited expired : Bool)

@[simp]
theorem underWay_ended (conclusion : Conclusion) : (ended conclusion).underWay = [] := rfl

@[simp]
theorem underWay_dropped : dropped.underWay = [] := rfl

@[simp]
theorem underWay_leaving : (leaving batch expired).underWay = batch.underWay :=
  Spot.filterMap_operation? _

@[simp]
theorem underWay_deciding :
    (assigning user (.deciding user connection evaluation) limited).underWay = [] :=
  Spot.filterMap_question _

@[simp]
theorem ofAssignment_deciding :
    ofAssignment user (.deciding user connection evaluation) limited =
      assigning user (.deciding user connection evaluation) limited := rfl

@[simp]
theorem underWay_joining :
    (assigning user (.joining connection batch) limited).underWay = batch.underWay :=
  Spot.filterMap_operation? _

@[simp]
theorem underWay_ofLeaves : (ofLeaves batch expired).underWay = batch.underWay := by
  unfold ofLeaves
  split
  · rename_i done
    exact (List.isEmpty_iff.1 done).symm
  · exact underWay_leaving batch expired

@[simp]
theorem underWay_ofAssignment_joining :
    (ofAssignment user (.joining connection batch) limited).underWay = batch.underWay := by
  cases done : batch.isDone with
  | true => simp [ofAssignment, Assignment.report?, done, List.isEmpty_iff.1 done]
  | false => simp [ofAssignment, Assignment.report?, done]

end Strand

/-- The operations under way at a position. -/
def System.underWay (system : System) (position : Nat) : List Operation :=
  (system.strands[position]?).elim [] Strand.underWay

namespace Moment

/-- What a strand attempts at the moment. -/
def attemptOf? (position : Nat) (moment : Moment) : Option Attempt :=
  moment.attempt?.bind fun (strand, _, attempt) =>
    if strand = position then some attempt else none

/-- The question to a guard that is answered for a strand at the moment. -/
def questionOf? (position : Nat) (moment : Moment) : Option (Guard × Channel) :=
  match moment.event with
  | .perform other spot _ =>
    if other = position then
      ((moment.system.strands[position]?).bind fun strand => strand.inquiry? spot).bind
        Inquiry.question?
    else none
  | _ => none

/-- The operations that a strand issues at the moment. -/
def issues (position : Nat) (moment : Moment) : List Operation :=
  issuedBetween (moment.system.underWay position) (moment.next.underWay position)
    (moment.attemptOf? position)

end Moment

/-- What a strand attempts in a history. -/
def attemptsOf (position : Nat) (moments : List Moment) : List Attempt :=
  moments.filterMap (Moment.attemptOf? position)

/-- The questions to guards that are answered for a strand in a history. -/
def questionsOf (position : Nat) (moments : List Moment) : List (Guard × Channel) :=
  moments.filterMap (Moment.questionOf? position)

/-- The operations that a strand issues in a history, in order. -/
def issuedBy (position : Nat) (moments : List Moment) : List Operation :=
  moments.flatMap (Moment.issues position)

section Concat

variable (position : Nat) (moments : List Moment) (moment : Moment)

theorem attemptsOf_concat :
    attemptsOf position (moments ++ [moment]) =
      attemptsOf position moments ++ (moment.attemptOf? position).toList := by
  cases attempted : moment.attemptOf? position <;> simp [attemptsOf, attempted]

theorem questionsOf_concat :
    questionsOf position (moments ++ [moment]) =
      questionsOf position moments ++ (moment.questionOf? position).toList := by
  cases asked : moment.questionOf? position <;> simp [questionsOf, asked]

theorem issuedBy_concat :
    issuedBy position (moments ++ [moment]) =
      issuedBy position moments ++ moment.issues position := by
  simp [issuedBy]

end Concat

namespace Moment

variable {moment : Moment} {position : Nat} {strand : Strand}

theorem attemptOf?_of_perform {spot : Spot} {passage : Passage}
    (event : moment.event = .perform position spot passage)
    (found : moment.system.strands[position]? = some strand) :
    moment.attemptOf? position =
      moment.system.board.attempt? passage spot (strand.inquiry? spot) := by
  cases attempted : moment.system.board.attempt? passage spot (strand.inquiry? spot) <;>
    simp [attemptOf?, attempt?, event, found, attempted]

theorem questionOf?_of_perform {spot : Spot} {passage : Passage}
    (event : moment.event = .perform position spot passage)
    (found : moment.system.strands[position]? = some strand) :
    moment.questionOf? position = (strand.inquiry? spot).bind Inquiry.question? := by
  simp [questionOf?, event, found]

/-- Only the answer at one of its spots is an attempt of a strand. -/
theorem attemptOf?_eq_none
    (elsewhere : ∀ spot passage, moment.event ≠ .perform position spot passage) :
    moment.attemptOf? position = none := by
  cases event : moment.event with
  | perform other spot passage =>
      have apart : other ≠ position := fun same => elsewhere spot passage (same ▸ event)
      cases found : moment.system.strands[other]? with
      | none => simp [attemptOf?, attempt?, event, found]
      | some strand =>
          cases attempted : moment.system.board.attempt? passage spot (strand.inquiry? spot) <;>
            simp [attemptOf?, attempt?, event, found, attempted, apart]
  | _ => simp [attemptOf?, attempt?, event]

/-- Only the answer at one of its spots answers a question of a strand. -/
theorem questionOf?_eq_none
    (elsewhere : ∀ spot passage, moment.event ≠ .perform position spot passage) :
    moment.questionOf? position = none := by
  cases event : moment.event with
  | perform other spot passage =>
      have apart : other ≠ position := fun same => elsewhere spot passage (same ▸ event)
      simp [questionOf?, event, apart]
  | _ => simp [questionOf?, event]

/-- A moment at another strand leaves a strand as it is. -/
theorem strand_next_of_strand?_ne (found : moment.system.strands[position]? = some strand)
    (elsewhere : moment.event.strand? ≠ some position) :
    moment.next.strands[position]? = some strand := by
  obtain ⟨system, event⟩ := moment
  have inside : position < system.strands.length := (List.getElem?_eq_some_iff.1 found).1
  have append_eq (later : List Strand) : (system.strands ++ later)[position]? = some strand :=
    (List.getElem?_append_left inside).trans found
  have set_eq {other : Nat} (apart : some other ≠ some position) (after : Strand) :
      (system.strands.set other after)[position]? = some strand :=
    (List.getElem?_set_ne fun same => apart (congrArg some same)).trans found
  cases event with
  | submit request => exact append_eq _
  | visit other =>
      simp only [next, System.step]
      split
      · exact set_eq elsewhere _
      · exact found
  | perform other spot passage =>
      simp only [next, System.step]
      split
      · exact set_eq elsewhere _
      · exact found
  | expire other =>
      simp only [next, System.step]
      split
      · exact set_eq elsewhere _
      · exact found
  | abandon other kept =>
      simp only [next, System.step]
      split
      · cases kept <;> exact set_eq elsewhere _
      · exact found
  | resume =>
      simp only [next, System.step]
      split
      · exact found
      · exact append_eq _
  | proceed worker =>
      simp only [next, System.step]
      split
      · simp only [System.proceed]
        split
        · split <;> exact found
        · exact append_eq _
        · split <;> exact found
      · exact found
  | _ => exact found

/-- What a moment is to a strand that is not waiting to be looked at. -/
inductive Turn (position : Nat) (strand : Strand) (moment : Moment) : Prop where
  /-- It stays as it is. -/
  | stays (strand_eq : moment.next.strands[position]? = some strand)
    (elsewhere : ∀ spot passage, moment.event ≠ .perform position spot passage)
  /-- The answer at one of its spots comes about. -/
  | answers (spot : Spot) (passage : Passage)
    (event : moment.event = .perform position spot passage)
    (strand_eq : moment.next.strands[position]? =
      some (strand.perform moment.system.board passage spot).2)
    (board_eq : moment.next.board = (strand.perform moment.system.board passage spot).1)
  /-- It runs out of time. -/
  | expires (event : moment.event = .expire position)
    (strand_eq : moment.next.strands[position]? = some (strand.expire moment.system.board).2)
    (board_eq : moment.next.board = (strand.expire moment.system.board).1)
  /-- It is given up. -/
  | abandoned (kept : Bool) (event : moment.event = .abandon position kept)
    (strand_eq : moment.next.strands[position]? =
      some (strand.abandon moment.system.board).2.1)

/-- A strand that is not waiting to be looked at goes on by an answer or by running out of time, until it
is given up. -/
theorem turn (found : moment.system.strands[position]? = some strand)
    (known : ∀ user, strand ≠ .queued user) : moment.Turn position strand := by
  have inside : position < moment.system.strands.length := (List.getElem?_eq_some_iff.1 found).1
  by_cases here : moment.event.strand? = some position
  · cases event : moment.event with
    | visit other =>
        obtain rfl : other = position := by simpa [event, Event.strand?] using here
        have same := next_of_idle_visit event found known
        exact .stays (by rw [same, found]) (by simp [event])
    | perform other spot passage =>
        obtain rfl : other = position := by simpa [event, Event.strand?] using here
        have next := next_of_perform event found
        exact .answers spot passage event (by rw [next]; exact List.getElem?_set_self inside)
          (congrArg System.board next)
    | expire other =>
        obtain rfl : other = position := by simpa [event, Event.strand?] using here
        have next := next_of_expire event found
        exact .expires event (by rw [next]; exact List.getElem?_set_self inside)
          (congrArg System.board next)
    | abandon other kept =>
        obtain rfl : other = position := by simpa [event, Event.strand?] using here
        refine .abandoned kept event ?_
        simp only [Moment.next, event, System.step, found]
        cases kept <;> exact List.getElem?_set_self inside
    | _ => simp [event, Event.strand?] at here
  · refine .stays (strand_next_of_strand?_ne found here) fun spot passage event => here ?_
    rw [event]
    rfl

/-- What a strand issues at a moment, given what becomes of it. -/
theorem issues_eq {after : Strand} (found : moment.system.strands[position]? = some strand)
    (found' : moment.next.strands[position]? = some after) :
    moment.issues position =
      issuedBetween strand.underWay after.underWay (moment.attemptOf? position) := by
  simp [issues, System.underWay, found, found']

/-- A strand that stays as it is and attempts nothing issues nothing. -/
theorem issues_eq_nil (found : moment.system.strands[position]? = some strand)
    (found' : moment.next.strands[position]? = some strand)
    (unattempted : moment.attemptOf? position = none) : moment.issues position = [] := by
  rw [issues_eq found found', unattempted, issuedBetween_self]

/-- A strand that is over attempts nothing and asks nothing. -/
theorem silent_of_isOver (found : moment.system.strands[position]? = some strand)
    (finished : strand.isOver = true) :
    moment.attemptOf? position = none ∧ moment.questionOf? position = none := by
  by_cases here : ∃ spot passage, moment.event = .perform position spot passage
  · obtain ⟨spot, passage, event⟩ := here
    rw [attemptOf?_of_perform event found, questionOf?_of_perform event found,
      Strand.inquiry?_of_isOver finished]
    exact ⟨Switchboard.attempt?_none _ _ _, rfl⟩
  · have elsewhere : ∀ spot passage, moment.event ≠ .perform position spot passage :=
      fun spot passage event => here ⟨spot, passage, event⟩
    exact ⟨attemptOf?_eq_none elsewhere, questionOf?_eq_none elsewhere⟩

end Moment

namespace System

variable {system : System} {position : Nat} {strand : Strand}

/-- A strand that is over stays as it is and does nothing any more. -/
theorem silent_of_isOver (found : system.strands[position]? = some strand)
    (finished : strand.isOver = true) (events : List Event) :
    (system.run events).strands[position]? = some strand ∧
      issuedBy position (system.moments events) = [] ∧
      attemptsOf position (system.moments events) = [] ∧
      questionsOf position (system.moments events) = [] := by
  induction events using List.reverseRecOn with
  | nil => exact ⟨found, rfl, rfl, rfl⟩
  | append_singleton events event induction =>
      obtain ⟨found, unissued, unattempted, unasked⟩ := induction
      let moment : Moment := ⟨system.run events, event⟩
      have stays : moment.next.strands[position]? = some strand :=
        Moment.strand_next_of_isOver found finished
      obtain ⟨attempt, question⟩ := @Moment.silent_of_isOver moment position strand found finished
      have issue : moment.issues position = [] := Moment.issues_eq_nil found stays attempt
      rw [run_concat, moments_concat, issuedBy_concat, attemptsOf_concat, questionsOf_concat,
        unissued, unattempted, unasked]
      exact ⟨stays, issue, by rw [attempt]; rfl, by rw [question]; rfl⟩

end System
end ChannelMembership
