import Mathlib.Data.List.Basic
import Mathlib.Data.List.Induction
import ChannelMembership.Proofs.Switchboard.Attempt

/-!
# The account of a batch

A batch issues its operations in order.  Each one that was issued has been attempted or is still under
way, and the report tells what was attempted, in the order in which the answers came in.
-/

namespace ChannelMembership

section Diff

variable {α : Type*} [DecidableEq α]

theorem append_diff_self (first second : List α) : (first ++ second).diff first = second := by
  induction first with
  | nil => simp
  | cons a first induction => simpa [List.diff_cons] using induction

theorem diff_eq_of_disjoint {first second : List α} (apart : ∀ a ∈ second, a ∉ first) :
    first.diff second = first := by
  induction second with
  | nil => simp
  | cons a second induction =>
      rw [List.diff_cons, List.erase_of_not_mem (apart a List.mem_cons_self)]
      exact induction fun b member => apart b (List.mem_cons_of_mem _ member)

end Diff

namespace Attempt

/-- The operations that were carried out. -/
def accepted (attempts : List Attempt) : List Operation :=
  (attempts.filter fun attempt => attempt.delivery = .ok ()).map operation

/-- The operations that failed, each with the reason. -/
def rejected (attempts : List Attempt) : List (Operation × TransportError) :=
  attempts.filterMap fun attempt =>
    match attempt.delivery with
    | .ok () => none
    | .error error => some (attempt.operation, error)

variable {attempts : List Attempt} {operation : Operation} {error : TransportError}

@[simp]
theorem mem_accepted : operation ∈ accepted attempts ↔ ⟨operation, .ok ()⟩ ∈ attempts := by
  simp only [accepted, List.mem_map, List.mem_filter, decide_eq_true_eq]
  constructor
  · rintro ⟨attempt, ⟨member, delivered⟩, rfl⟩
    rwa [← delivered]
  · exact fun member => ⟨_, ⟨member, rfl⟩, rfl⟩

@[simp]
theorem mem_rejected :
    (operation, error) ∈ rejected attempts ↔ ⟨operation, .error error⟩ ∈ attempts := by
  simp only [rejected, List.mem_filterMap]
  constructor
  · rintro ⟨⟨operation', delivery⟩, member, failed⟩
    cases delivery with
    | ok done => cases failed
    | error error' =>
        cases failed
        exact member
  · exact fun member => ⟨_, member, rfl⟩

end Attempt

namespace Report

/-- A report to which attempts have been added in turn. -/
def tell (report : Report) (attempts : List Attempt) : Report :=
  { report with
    applied := report.applied ++ Attempt.accepted attempts
    failures := report.failures ++ Attempt.rejected attempts }

@[simp]
theorem tell_nil (report : Report) : report.tell [] = report := by
  simp [tell, Attempt.accepted, Attempt.rejected]

theorem tell_concat (report : Report) (attempts : List Attempt) (attempt : Attempt) :
    report.tell (attempts ++ [attempt]) =
      (report.tell attempts).record attempt.operation attempt.delivery := by
  obtain ⟨operation, delivery⟩ := attempt
  cases delivery <;> simp [tell, record, Attempt.accepted, Attempt.rejected]

/-- A report tells what was attempted, in the order in which the answers came in. -/
structure Tells (attempts : List Attempt) (report : Report) : Prop where
  /-- It lists the operations that were carried out. -/
  applied_eq : report.applied = Attempt.accepted attempts
  /-- It lists the others with the errors that they met with. -/
  failures_eq : report.failures = Attempt.rejected attempts

theorem tells_tell (user : UserKey) (connections : Nat) (attempts : List Attempt) :
    ((start user connections).tell attempts).Tells attempts :=
  ⟨List.nil_append _, List.nil_append _⟩

theorem recorded_tell (report : Report) (attempts : List Attempt) :
    (report.tell attempts).recorded.Perm (report.recorded ++ attempts.map Attempt.operation) := by
  induction attempts using List.reverseRecOn with
  | nil => simp
  | append_singleton attempts attempt induction =>
      rw [tell_concat, List.map_append, ← List.append_assoc]
      exact ((recorded_record _ _ _).trans (induction.cons _)).trans
        (List.perm_append_singleton _ _).symm

theorem covers_tell {operations : List Operation} {attempts : List Attempt}
    (all : (attempts.map Attempt.operation).Perm operations) (user : UserKey) (connections : Nat) :
    ((start user connections).tell attempts).Covers user connections operations where
  user_eq := rfl
  connections_eq := rfl
  recorded_perm := (recorded_tell _ attempts).trans all

end Report

/-- The operations that have been issued from one moment to another, when something has been attempted
between them: those that are under way, except those that were before and have not been answered. -/
def issuedBetween (before after : List Operation) (attempt? : Option Attempt) : List Operation :=
  after.diff (before.diff (attempt?.toList.map Attempt.operation))

@[simp]
theorem issuedBetween_self (operations : List Operation) :
    issuedBetween operations operations none = [] := by
  simpa [issuedBetween] using append_diff_self operations []

theorem issuedBetween_of_disjoint {before after : List Operation}
    (apart : ∀ operation ∈ before, operation ∉ after) : issuedBetween before after none = after := by
  simpa [issuedBetween] using diff_eq_of_disjoint apart

@[simp]
theorem issuedBetween_from_nil (operations : List Operation) :
    issuedBetween [] operations none = operations :=
  issuedBetween_of_disjoint nofun

@[simp]
theorem issuedBetween_to_nil (operations : List Operation) (attempt? : Option Attempt) :
    issuedBetween operations [] attempt? = [] := by
  simp [issuedBetween]

namespace Groups

/-- The groups after operations that came to their end in turn. -/
def afterAll (groups : Groups) (attempts : List Attempt) : Groups :=
  attempts.foldl (fun groups attempt => groups.after attempt.operation attempt.delivery) groups

@[simp]
theorem afterAll_concat (groups : Groups) (attempts : List Attempt) (attempt : Attempt) :
    groups.afterAll (attempts ++ [attempt]) =
      (groups.afterAll attempts).after attempt.operation attempt.delivery := by
  simp [afterAll]

theorem afterAll_append_toList (groups : Groups) (attempts : List Attempt)
    (attempt? : Option Attempt) :
    groups.afterAll (attempts ++ attempt?.toList) =
      (groups.afterAll attempts).afterAttempt attempt? := by
  cases attempt? <;> simp [afterAttempt]

variable {attempts : List Attempt} {connection : Connection} {channel : Channel}

/-- A membership that no operation decides about stays as it was. -/
theorem isMember_afterAll_of_absent (groups : Groups)
    (absent : (connection, channel) ∉ attempts.map fun attempt => attempt.operation.pair) :
    (groups.afterAll attempts).isMember channel connection =
      groups.isMember channel connection := by
  induction attempts using List.reverseRecOn with
  | nil => rfl
  | append_singleton attempts attempt induction =>
      simp only [List.map_append, List.mem_append, not_or, List.map_cons, List.map_nil,
        List.mem_singleton] at absent
      rw [afterAll_concat, isMember_after_of_ne _ _ absent.2, induction absent.1]

/-- Where no two operations decide about the same membership, each of them has the say about its
own. -/
theorem isMember_afterAll_of_mem (groups : Groups)
    (distinct : (attempts.map fun attempt => attempt.operation.pair).Nodup) {attempt : Attempt}
    (member : attempt ∈ attempts) :
    (groups.afterAll attempts).isMember attempt.operation.channel attempt.operation.connection =
      (groups.after attempt.operation attempt.delivery).isMember attempt.operation.channel
        attempt.operation.connection := by
  induction attempts using List.reverseRecOn with
  | nil => cases member
  | append_singleton attempts last induction =>
      rw [List.map_append, List.nodup_append] at distinct
      obtain ⟨distinct, -, apart⟩ := distinct
      rw [afterAll_concat]
      rcases List.mem_append.1 member with earlier | now
      · have other : attempt.operation.pair ≠ last.operation.pair :=
          apart _ (List.mem_map_of_mem earlier) _ List.mem_cons_self
        rw [← induction distinct earlier]
        exact isMember_after_of_ne _ _ other
      · cases List.mem_singleton.1 now
        obtain ⟨operation, delivery⟩ := attempt
        cases delivery with
        | ok done => rw [isMember_after_self, isMember_after_self]
        | error error =>
            refine isMember_afterAll_of_absent groups fun earlier => ?_
            exact apart _ earlier _ List.mem_cons_self rfl

end Groups

namespace Batch

/-- What a batch has issued and attempted so far. -/
structure Accounts (report : Report) (operations issued : List Operation)
    (attempts : List Attempt) (batch : Batch) : Prop where
  /-- While something waits, something is under way. -/
  steady : batch.Steady
  /-- Operations are issued in order. -/
  order : issued ++ batch.waiting = operations
  /-- What was issued has been attempted or is under way. -/
  answered : (attempts.map Attempt.operation ++ batch.underWay).Perm issued
  /-- The report tells what was attempted. -/
  told : batch.report = report.tell attempts

variable {report : Report} {operations issued : List Operation} {attempts : List Attempt}
  {batch : Batch}

/-- At first a batch issues as many operations as may be under way. -/
theorem accounts_start (bound : Nat) (report : Report) (operations : List Operation) :
    (start bound report operations).Accounts report operations
      (start bound report operations).underWay [] where
  steady := steady_start bound report operations
  order := underWay_append_waiting_start bound report operations
  answered := .refl _
  told := report.tell_nil.symm

/-- For each answer the next operation is issued. -/
theorem Accounts.complete (accounts : batch.Accounts report operations issued attempts)
    {operation : Operation} (underWay : operation ∈ batch.underWay) (delivery : Delivery) :
    (batch.complete operation delivery).Accounts report operations
      (issued ++ batch.waiting.take 1) (attempts ++ [⟨operation, delivery⟩]) where
  steady := accounts.steady.complete operation delivery
  order := by
    simp only [Batch.complete, underWay, if_true, List.append_assoc, List.take_append_drop]
    exact accounts.order
  answered := by
    have taken := List.perm_cons_erase underWay
    simp only [Batch.complete, underWay, if_true, List.map_append, List.map_cons, List.map_nil]
    calc
      List.Perm (attempts.map Attempt.operation ++ [operation] ++
          (batch.underWay.erase operation ++ batch.waiting.take 1))
          (attempts.map Attempt.operation ++ (operation :: batch.underWay.erase operation) ++
            batch.waiting.take 1) := by simp
      List.Perm _ (attempts.map Attempt.operation ++ batch.underWay ++ batch.waiting.take 1) :=
        (taken.symm.append_left _).append_right _
      List.Perm _ (issued ++ batch.waiting.take 1) := accounts.answered.append_right _
  told := by
    rw [Report.tell_concat, ← accounts.told]
    simp only [Batch.complete, underWay, if_true]

theorem issuedBetween_perform (batch : Batch) (board : Switchboard) (passage : Passage)
    (operation : Operation) :
    issuedBetween batch.underWay (batch.perform board passage operation).2.underWay
        (batch.attempt? board passage operation) =
      if operation ∈ batch.underWay then batch.waiting.take 1 else [] := by
  by_cases underWay : operation ∈ batch.underWay
  · simp [issuedBetween, perform, complete, attempt?, underWay, Switchboard.attempt?,
      append_diff_self]
  · simp [perform, attempt?, underWay]

/-- The account of a batch goes on with the answer to an operation. -/
theorem Accounts.perform (accounts : batch.Accounts report operations issued attempts)
    (board : Switchboard) (passage : Passage) (operation : Operation) :
    (batch.perform board passage operation).2.Accounts report operations
      (issued ++ issuedBetween batch.underWay (batch.perform board passage operation).2.underWay
        (batch.attempt? board passage operation))
      (attempts ++ (batch.attempt? board passage operation).toList) := by
  rw [issuedBetween_perform]
  by_cases underWay : operation ∈ batch.underWay
  · simp only [Batch.perform, attempt?, underWay, if_true, Switchboard.attempt?]
    exact accounts.complete underWay _
  · simpa [Batch.perform, attempt?, underWay] using accounts

/-- When a batch is done, everything was issued and attempted. -/
theorem Accounts.done (accounts : batch.Accounts report operations issued attempts)
    (done : batch.isDone = true) :
    issued = operations ∧ (attempts.map Attempt.operation).Perm operations := by
  have idle : batch.underWay = [] := List.isEmpty_iff.1 done
  have all : issued = operations := by simpa [accounts.steady idle] using accounts.order
  refine ⟨all, ?_⟩
  simpa [idle, all] using accounts.answered

end Batch
end ChannelMembership
