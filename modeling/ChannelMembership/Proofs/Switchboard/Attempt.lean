import ChannelMembership.Proofs.Membership.Batch
import ChannelMembership.Switchboard.Spot

/-!
# Attempts

An answer that comes in where an operation is awaited is an attempt to carry the operation out.
Attempts are the only answers that matter to the memberships.  When a batch is watched while others
attempt operations as well, an excuse has to be kept for every membership on which the batch had not
the last word, or had it without success.
-/

namespace ChannelMembership

/-- An operation that comes to its end, and what becomes of it. -/
structure Attempt where
  /-- The operation. -/
  operation : Operation
  /-- What becomes of it. -/
  delivery : Delivery
  deriving DecidableEq

namespace Switchboard

/-- What is attempted when the answer to an inquiry at a spot comes about. -/
def attempt? (board : Switchboard) (passage : Passage) : Spot → Option Inquiry → Option Attempt
  | .operation operation, some _ =>
    some ⟨operation, (board.call passage operation.call).2⟩
  | _, _ => none

@[simp]
theorem attempt?_none (board : Switchboard) (passage : Passage) (spot : Spot) :
    board.attempt? passage spot none = none := by
  cases spot <;> rfl

theorem attempt?_eq_some {board : Switchboard} {passage : Passage} {spot : Spot}
    {inquiry? : Option Inquiry} {attempt : Attempt}
    (attempted : board.attempt? passage spot inquiry? = some attempt) :
    spot = .operation attempt.operation ∧ inquiry?.isSome = true ∧
      attempt.delivery = (board.call passage attempt.operation.call).2 := by
  cases spot with
  | operation operation =>
      cases inquiry? with
      | none => cases attempted
      | some inquiry =>
          cases attempted
          exact ⟨rfl, rfl, rfl⟩
  | question channel => cases attempted
  | account => cases attempted
  | publication => cases attempted
  | copy connection => cases attempted

end Switchboard

namespace Groups

/-- The groups after what was attempted, if anything. -/
def afterAttempt (groups : Groups) : Option Attempt → Groups
  | none => groups
  | some attempt => groups.after attempt.operation attempt.delivery

/-- An attempt leaves every other membership as it is. -/
theorem isMember_afterAttempt_of_ne (groups : Groups) {attempt? : Option Attempt}
    {connection : Connection} {channel : Channel}
    (other : ∀ attempt ∈ attempt?, attempt.operation.pair ≠ (connection, channel)) :
    (groups.afterAttempt attempt?).isMember channel connection =
      groups.isMember channel connection := by
  cases attempt? with
  | none => rfl
  | some attempt => exact groups.isMember_after_of_ne _ (other attempt rfl).symm

end Groups

/-- Excuses before and after an attempt of one's own: those that do not concern the attempted
operation are kept, and there is one for the operation if it fails. -/
structure Excuses (attempt? : Option Attempt) (before after : Connection → Channel → Prop) :
    Prop where
  /-- Other excuses are kept. -/
  kept : ∀ connection channel,
    (∀ attempt ∈ attempt?, attempt.operation.pair ≠ (connection, channel)) →
      before connection channel → after connection channel
  /-- A failure is an excuse. -/
  blamed : ∀ attempt ∈ attempt?,
    attempt.delivery = .ok () ∨ after attempt.operation.connection attempt.operation.channel

/-- Where nothing is attempted, all excuses are kept. -/
theorem Excuses.kept_of_none {before after : Connection → Channel → Prop}
    (excuses : Excuses none before after) (connection : Connection) (channel : Channel)
    (excuse : before connection channel) : after connection channel :=
  excuses.kept connection channel nofun excuse

/-- Everything may be excused. -/
theorem Excuses.everything (attempt? : Option Attempt) :
    Excuses attempt? (fun _ _ => True) (fun _ _ => True) :=
  ⟨fun _ _ _ _ => trivial, fun _ _ => .inr trivial⟩

namespace Report

/-- A report about operations issued for a user on a number of connections. -/
structure Covers (user : UserKey) (connections : Nat) (issued : List Operation)
    (report : Report) : Prop where
  /-- The report is about the user. -/
  user_eq : report.user = some user
  /-- It tells the number of connections. -/
  connections_eq : report.connections = connections
  /-- It lists every operation exactly once. -/
  recorded_perm : report.recorded.Perm issued

end Report

namespace Batch

/-- A batch at work on operations that were issued for a user and concern different memberships. -/
structure Serves (groups : Groups) (excused : Connection → Channel → Prop) (user : UserKey)
    (connections : Nat) (issued : List Operation) (batch : Batch) : Prop
    extends Works groups excused issued batch where
  /-- No two operations concern the same membership. -/
  distinct : (issued.map Operation.pair).Nodup
  /-- The report is about the user. -/
  user_eq : batch.report.user = some user
  /-- It tells the number of connections. -/
  connections_eq : batch.report.connections = connections

theorem serves_start (groups : Groups) (excused : Connection → Channel → Prop) (bound : Nat)
    (user : UserKey) (connections : Nat) {issued : List Operation}
    (distinct : (issued.map Operation.pair).Nodup) :
    (start bound (Report.start user connections) issued).Serves groups excused user connections
      issued where
  toWorks := works_start groups excused bound rfl issued
  distinct := distinct
  user_eq := rfl
  connections_eq := rfl

variable {groups : Groups} {excused excused' : Connection → Channel → Prop} {user : UserKey}
  {connections : Nat} {issued : List Operation} {batch : Batch}

theorem Serves.mono (serves : batch.Serves groups excused user connections issued)
    {groups' : Groups}
    (kept : ∀ operation ∈ issued, excused operation.connection operation.channel →
      excused' operation.connection operation.channel)
    (frame : ∀ operation ∈ issued, excused' operation.connection operation.channel ∨
      groups'.isMember operation.channel operation.connection =
        groups.isMember operation.channel operation.connection) :
    batch.Serves groups' excused' user connections issued :=
  ⟨serves.toWorks.mono kept frame, serves.distinct, serves.user_eq, serves.connections_eq⟩

theorem user_complete (batch : Batch) (operation : Operation) (delivery : Delivery) :
    (batch.complete operation delivery).report.user = batch.report.user := by
  unfold complete
  split
  · cases delivery <;> rfl
  · rfl

theorem connections_complete (batch : Batch) (operation : Operation) (delivery : Delivery) :
    (batch.complete operation delivery).report.connections = batch.report.connections := by
  unfold complete
  split
  · cases delivery <;> rfl
  · rfl

/-- What a batch attempts when the answer to an operation comes about. -/
def attempt? (batch : Batch) (board : Switchboard) (passage : Passage) (operation : Operation) :
    Option Attempt :=
  board.attempt? passage (.operation operation)
    (if operation ∈ batch.underWay then some (.transport operation.call) else none)

theorem groups_perform (batch : Batch) (board : Switchboard) (passage : Passage)
    (operation : Operation) :
    (batch.perform board passage operation).1.groups =
      board.groups.afterAttempt (batch.attempt? board passage operation) := by
  by_cases underWay : operation ∈ batch.underWay
  · simp only [perform, attempt?, underWay, if_true, Switchboard.attempt?, Groups.afterAttempt]
    exact board.groups_call passage operation
  · simp [perform, attempt?, underWay, Groups.afterAttempt]

theorem perform_board (batch : Batch) (board : Switchboard) (passage : Passage)
    (operation : Operation) :
    (batch.perform board passage operation).1 =
      { board with link := (batch.perform board passage operation).1.link } := by
  unfold perform
  split
  · exact board.call_eq passage operation.call
  · rfl

/-- Only operations that were issued are attempted. -/
theorem Serves.attempts {board : Switchboard}
    (serves : batch.Serves groups excused user connections issued) {passage : Passage}
    {operation : Operation} {attempt : Attempt}
    (attempted : batch.attempt? board passage operation = some attempt) :
    attempt.operation ∈ issued := by
  by_cases underWay : operation ∈ batch.underWay
  · simp only [attempt?, underWay, if_true, Switchboard.attempt?, Option.some.injEq] at attempted
    rw [← attempted]
    exact serves.toWorks.issued_of_underWay underWay
  · simp [attempt?, underWay] at attempted

/-- A batch goes on serving when the answer to one of its operations comes about. -/
theorem Serves.perform {board : Switchboard}
    (serves : batch.Serves board.groups excused user connections issued) {passage : Passage}
    {operation : Operation}
    (excuses : Excuses (batch.attempt? board passage operation) excused excused') :
    (batch.perform board passage operation).2.Serves
      (batch.perform board passage operation).1.groups excused' user connections issued := by
  by_cases underWay : operation ∈ batch.underWay
  · have attempted : batch.attempt? board passage operation =
        some ⟨operation, (board.call passage operation.call).2⟩ := by
      simp [attempt?, underWay, Switchboard.attempt?]
    refine ⟨serves.toWorks.perform serves.distinct passage underWay ?_ ?_, serves.distinct, ?_, ?_⟩
    · intro connection channel other excuse
      refine excuses.kept connection channel (fun attempt member => ?_) excuse
      rw [attempted] at member
      cases member
      exact other.symm
    · exact excuses.blamed _ attempted
    · simp only [Batch.perform, underWay, if_true]
      rw [user_complete]
      exact serves.user_eq
    · simp only [Batch.perform, underWay, if_true]
      rw [connections_complete]
      exact serves.connections_eq
  · have nothing : batch.attempt? board passage operation = none := by
      simp [attempt?, underWay]
    rw [nothing] at excuses
    simp only [Batch.perform, underWay, if_false]
    exact serves.mono (fun other _ => excuses.kept_of_none _ _) (fun other _ => .inr rfl)

/-- An operation is recorded when the answer to it comes about. -/
theorem recorded_perform {batch : Batch} {board : Switchboard} {passage : Passage}
    {operation other : Operation}
    (recorded : other ∈ (batch.perform board passage operation).2.report.recorded) :
    other ∈ batch.report.recorded ∨
      ∃ delivery, batch.attempt? board passage operation = some ⟨other, delivery⟩ := by
  by_cases underWay : operation ∈ batch.underWay
  · simp only [perform, complete, underWay, if_true] at recorded
    rcases List.mem_cons.1 ((batch.report.recorded_record _ _).subset recorded) with rfl | earlier
    · exact .inr ⟨(board.call passage other.call).2,
        by simp [attempt?, underWay, Switchboard.attempt?]⟩
    · exact .inl earlier
  · simp only [perform, underWay, if_false] at recorded
    exact .inl recorded

/-- When the batch is done, its report covers what was issued, and every operation has had its
effect or is excused. -/
theorem Serves.done (serves : batch.Serves groups excused user connections issued)
    (done : batch.isDone = true) :
    batch.report.Covers user connections issued ∧ ∀ operation ∈ issued,
      excused operation.connection operation.channel ∨
        groups.isMember operation.channel operation.connection = operation.isJoin := by
  obtain ⟨recorded, settled⟩ := serves.toWorks.done done
  exact ⟨⟨serves.user_eq, serves.connections_eq, recorded⟩, settled⟩

end Batch
end ChannelMembership
