import Mathlib.Data.List.Nodup
import ChannelMembership.Proofs.Membership.Evaluation
import ChannelMembership.Proofs.Switchboard.Attempt
import ChannelMembership.Switchboard.Pass

/-!
# What a pass achieves

A pass decides about every membership of the connections that it found: each of them in each known
channel.  It issues one operation for each of these memberships, a join if the work grants the
channel and a leave otherwise.  While the pass goes on, others may touch the same memberships; when
it is over, every membership is as the work wants it or is excused.
-/

namespace ChannelMembership

theorem Presence.nodup_connections (presence : Presence) (user : UserKey) :
    (presence.connections user).Nodup :=
  nodup_sortedSet _

namespace Work

/-- Whether the work lets connections receive what happens on a channel. -/
def grants (directory : Directory) : Work → Channel → Bool
  | reconcile principal => directory.grants principal
  | revoke => fun _ => false

/-- The split of the known channels that the work brings about. -/
def partition (directory : Directory) : Work → Partition
  | reconcile principal => directory.authorize principal
  | revoke => directory.denyAll

/-- The operations that carry out the work for some connections. -/
def operations (directory : Directory) (connections : List Connection) (work : Work) :
    List Operation :=
  Pass.matrix connections (work.partition directory)

variable {directory : Directory} {connections : List Connection}

theorem mem_authorized_partition (work : Work) (channel : Channel) :
    channel ∈ (work.partition directory).authorized ↔
      directory.governs channel = true ∧ work.grants directory channel = true := by
  cases work with
  | reconcile principal => exact directory.mem_authorized principal channel
  | revoke => simp [partition, Directory.denyAll, grants]

theorem mem_unauthorized_partition (work : Work) (channel : Channel) :
    channel ∈ (work.partition directory).unauthorized ↔
      directory.governs channel = true ∧ work.grants directory channel = false := by
  cases work with
  | reconcile principal => exact directory.mem_unauthorized principal channel
  | revoke => simp [partition, Directory.denyAll, grants]

/-- There is an operation for every connection and known channel, and it joins exactly where the
work grants the channel. -/
theorem mem_operations (work : Work) (operation : Operation) :
    operation ∈ work.operations directory connections ↔
      operation.connection ∈ connections ∧ directory.governs operation.channel = true ∧
        operation.isJoin = work.grants directory operation.channel := by
  simp only [operations, Pass.matrix, List.mem_flatMap, List.mem_append, List.mem_map,
    mem_authorized_partition, mem_unauthorized_partition]
  constructor
  · rintro ⟨connection, found, ⟨channel, ⟨governed, granted⟩, rfl⟩ |
      ⟨channel, ⟨governed, granted⟩, rfl⟩⟩
    · exact ⟨found, governed, granted.symm⟩
    · exact ⟨found, governed, granted.symm⟩
  · rintro ⟨found, governed, agrees⟩
    obtain ⟨action, connection, channel⟩ := operation
    refine ⟨connection, found, ?_⟩
    cases action with
    | join => exact .inl ⟨channel, ⟨governed, agrees.symm⟩, rfl⟩
    | leave => exact .inr ⟨channel, ⟨governed, agrees.symm⟩, rfl⟩

theorem nodup_partition (work : Work) : (work.partition directory).channels.Nodup := by
  refine List.Nodup.append ?_ ?_ ?_
  · cases work with
    | reconcile principal => exact directory.nodup_channels.filter _
    | revoke => exact List.nodup_nil
  · cases work with
    | reconcile principal => exact directory.nodup_channels.filter _
    | revoke => exact directory.nodup_channels
  · intro channel authorized unauthorized
    have granted := ((work.mem_authorized_partition channel).1 authorized).2
    have denied := ((work.mem_unauthorized_partition channel).1 unauthorized).2
    rw [granted] at denied
    cases denied

/-- No two operations concern the same membership. -/
theorem nodup_operations (work : Work) (distinct : connections.Nodup) :
    ((work.operations directory connections).map Operation.pair).Nodup := by
  have pairs : (work.operations directory connections).map Operation.pair =
      connections.flatMap fun connection =>
        (work.partition directory).channels.map fun channel => (connection, channel) := by
    simp [operations, Pass.matrix, List.map_flatMap, Partition.channels, Function.comp_def]
  rw [pairs]
  exact distinct.product work.nodup_partition

/-- Revoking is leaving every known channel. -/
theorem operations_revoke (board : Switchboard) (connections : List Connection) :
    revoke.operations board.directory connections = connections.flatMap board.leaveAll := by
  simp only [operations, Pass.matrix, partition, Directory.denyAll, List.map_nil, List.nil_append]
  rfl

/-- Revoking issues the leaves of the connections from all known channels. -/
theorem mem_operations_revoke (operation : Operation) :
    operation ∈ revoke.operations directory connections ↔
      operation.connection ∈ connections ∧ directory.governs operation.channel = true ∧
        operation.isJoin = false :=
  revoke.mem_operations operation

/-- Revoking on one connection is its leaving every known channel. -/
theorem operations_revoke_singleton (board : Switchboard) (connection : Connection) :
    revoke.operations board.directory [connection] = board.leaveAll connection := by
  rw [operations_revoke, List.flatMap_singleton]

/-- Every membership of these connections in a known channel is as the work wants it, or there is an
excuse for it. -/
def Settled (directory : Directory) (groups : Groups) (excused : Connection → Channel → Prop)
    (connections : List Connection) (work : Work) : Prop :=
  ∀ connection ∈ connections, ∀ channel, directory.governs channel = true →
    excused connection channel ∨
      groups.isMember channel connection = work.grants directory channel

theorem settled_of_operations {groups : Groups} {excused : Connection → Channel → Prop}
    {work : Work}
    (carried : ∀ operation ∈ work.operations directory connections,
      excused operation.connection operation.channel ∨
        groups.isMember operation.channel operation.connection = operation.isJoin) :
    work.Settled directory groups excused connections := by
  intro connection found channel governed
  cases granted : work.grants directory channel with
  | true =>
      exact carried (.join connection channel)
        ((work.mem_operations _).2 ⟨found, governed, granted.symm⟩)
  | false =>
      exact carried (.leave connection channel)
        ((work.mem_operations _).2 ⟨found, governed, granted.symm⟩)

theorem Settled.mono {groups groups' : Groups} {excused excused' : Connection → Channel → Prop}
    {work : Work} (settled : work.Settled directory groups excused connections)
    (kept : ∀ connection ∈ connections, ∀ channel,
      excused connection channel → excused' connection channel)
    (frame : ∀ connection ∈ connections, ∀ channel, excused' connection channel ∨
      groups'.isMember channel connection = groups.isMember channel connection) :
    work.Settled directory groups' excused' connections := by
  intro connection found channel governed
  rcases settled connection found channel governed with excuse | agrees
  · exact .inl (kept connection found channel excuse)
  · exact (frame connection found channel).imp_right fun same => same.trans agrees

end Work

/-- Whether an outcome is that of a pass which carried out the work for the connections it found. -/
def Outcome.Closes (directory : Directory) (user : UserKey) (work : Work)
    (connections : List Connection) : Outcome → Prop
  | .noConnections => work ≠ .revoke ∧ connections = []
  | .coalesced => False
  | .applied report =>
    work ≠ .revoke ∧ connections ≠ [] ∧
      report.Covers user connections.length (work.operations directory connections)
  | .revoked report =>
    work = .revoke ∧ report.Covers user connections.length (work.operations directory connections)

namespace Pass

/-- A pass at work for a user and the connections that it found. -/
inductive Serves (directory : Directory) (groups : Groups)
    (excused : Connection → Channel → Prop) (user : UserKey) :
    Work → List Connection → Pass → Prop
  /-- There is no connection to reconcile. -/
  | skipped (principal : Principal) :
    Serves directory groups excused user (.reconcile principal) [] skipped
  /-- The questioning will come to the decisions of the directory. -/
  | deciding {principal : Principal} {connections : List Connection} {evaluation : Evaluation}
    (found : connections ≠ []) (distinct : connections.Nodup)
    (faithful : evaluation.Faithful directory principal) :
    Serves directory groups excused user (.reconcile principal) connections
      (deciding user connections evaluation)
  /-- The operations of the principal's partition are carried out. -/
  | reconciling {principal : Principal} {connections : List Connection} {batch : Batch}
    (found : connections ≠ [])
    (serves : batch.Serves groups excused user connections.length
      ((Work.reconcile principal).operations directory connections)) :
    Serves directory groups excused user (.reconcile principal) connections (reconciling batch)
  /-- Leaves are carried out. -/
  | revoking {connections : List Connection} {batch : Batch}
    (serves : batch.Serves groups excused user connections.length
      (Work.revoke.operations directory connections)) :
    Serves directory groups excused user .revoke connections (revoking batch)

variable {directory : Directory} {groups groups' : Groups}
  {excused excused' : Connection → Channel → Prop} {user : UserKey} {work : Work}
  {connections : List Connection} {pass : Pass}

theorem Serves.settle {board : Switchboard}
    (serves : pass.Serves board.directory groups excused user work connections) :
    (settle board pass).Serves board.directory groups excused user work connections := by
  cases serves with
  | skipped principal => exact .skipped principal
  | reconciling found serves => exact .reconciling found serves
  | revoking serves => exact .revoking serves
  | @deciding principal _ evaluation found distinct faithful =>
      by_cases done : evaluation.isDone = true
      · simp only [Pass.settle, done, if_true, faithful.partition_eq done]
        exact .reconciling found (Batch.serves_start groups excused _ user _
          ((Work.reconcile principal).nodup_operations distinct))
      · simp only [Pass.settle, done]
        exact .deciding found distinct faithful

/-- A pass begins to serve the connections that are live at that moment. -/
theorem serves_start (board : Switchboard) (groups : Groups)
    (excused : Connection → Channel → Prop) (user : UserKey) (work : Work) :
    (start board user work).2.Serves board.directory groups excused user work
      (board.presence.connections user) := by
  have distinct := board.presence.nodup_connections user
  cases work with
  | revoke =>
      simp only [start, ← Work.operations_revoke]
      exact .revoking (Batch.serves_start groups excused _ user _
        (Work.revoke.nodup_operations distinct))
  | reconcile principal =>
      cases found : board.presence.connections user with
      | nil =>
          simp only [start, found, List.isEmpty_nil, if_true]
          exact .skipped principal
      | cons first rest =>
          rw [found] at distinct
          simp only [start, found, List.isEmpty_cons]
          exact Serves.settle (.deciding (by simp) distinct
            (Evaluation.faithful_start board.directory principal))

theorem start_board (board : Switchboard) (user : UserKey) (work : Work) :
    (start board user work).1 =
      { board with tabulated := (start board user work).1.tabulated } := by
  cases work <;> simp only [start] <;> split <;> rfl

/-- Excuses may grow, and whatever else happens to the memberships needs an excuse. -/
theorem Serves.mono (serves : pass.Serves directory groups excused user work connections)
    (kept : ∀ connection ∈ connections, ∀ channel,
      excused connection channel → excused' connection channel)
    (frame : ∀ connection ∈ connections, ∀ channel, excused' connection channel ∨
      groups'.isMember channel connection = groups.isMember channel connection) :
    pass.Serves directory groups' excused' user work connections := by
  have concerned {work : Work} {operation : Operation}
      (member : operation ∈ work.operations directory connections) :
      operation.connection ∈ connections :=
    ((work.mem_operations operation).1 member).1
  cases serves with
  | skipped principal => exact .skipped principal
  | deciding found distinct faithful => exact .deciding found distinct faithful
  | reconciling found serves =>
      exact .reconciling found (serves.mono
        (fun operation member => kept _ (concerned member) _)
        (fun operation member => frame _ (concerned member) _))
  | revoking serves =>
      exact .revoking (serves.mono
        (fun operation member => kept _ (concerned member) _)
        (fun operation member => frame _ (concerned member) _))

theorem perform_board (pass : Pass) (board : Switchboard) (passage : Passage) (spot : Spot) :
    (pass.perform board passage spot).1 =
      { board with link := (pass.perform board passage spot).1.link } := by
  cases pass <;> cases spot <;>
    first
    | rfl
    | exact Batch.perform_board _ board passage _

/-- Only what is attempted at the spot changes a membership. -/
theorem groups_perform (pass : Pass) (board : Switchboard) (passage : Passage) (spot : Spot) :
    (pass.perform board passage spot).1.groups =
      board.groups.afterAttempt (board.attempt? passage spot (pass.inquiry? spot)) := by
  cases pass <;> cases spot <;>
    first
    | rfl
    | exact Batch.groups_perform _ board passage _

/-- Only operations of the work are attempted. -/
theorem Serves.attempts {board : Switchboard}
    (serves : pass.Serves directory groups excused user work connections)
    {passage : Passage} {spot : Spot} {attempt : Attempt}
    (attempted : board.attempt? passage spot (pass.inquiry? spot) = some attempt) :
    attempt.operation ∈ work.operations directory connections := by
  obtain ⟨rfl, asked, -⟩ := Switchboard.attempt?_eq_some attempted
  cases serves with
  | skipped principal => cases asked
  | deciding found distinct faithful => cases asked
  | reconciling found serves => exact serves.attempts attempted
  | revoking serves => exact serves.attempts attempted

/-- A pass goes on serving when the answer at one of its spots comes about. -/
theorem Serves.perform {board : Switchboard}
    (serves : pass.Serves board.directory board.groups excused user work connections)
    {passage : Passage} {spot : Spot}
    (excuses : Excuses (board.attempt? passage spot (pass.inquiry? spot)) excused excused') :
    (pass.perform board passage spot).2.Serves board.directory
      (pass.perform board passage spot).1.groups excused' user work connections := by
  have quiet {pass : Pass}
      (serves : pass.Serves board.directory board.groups excused user work connections)
      (nothing : board.attempt? passage spot (pass.inquiry? spot) = none)
      (excuses : Excuses (board.attempt? passage spot (pass.inquiry? spot)) excused excused') :
      pass.Serves board.directory board.groups excused' user work connections := by
    rw [nothing] at excuses
    exact serves.mono (fun connection _ => excuses.kept_of_none connection) (fun _ _ _ => .inr rfl)
  cases serves with
  | skipped principal =>
      cases spot <;> exact quiet (.skipped principal) rfl excuses
  | deciding found distinct faithful =>
      cases spot with
      | question channel =>
          exact Serves.settle (.deciding found distinct (faithful.ask channel))
      | _ => exact quiet (.deciding found distinct faithful) rfl excuses
  | reconciling found serves =>
      cases spot with
      | operation operation => exact .reconciling found (serves.perform excuses)
      | _ => exact quiet (.reconciling found serves) rfl excuses
  | revoking serves =>
      cases spot with
      | operation operation => exact .revoking (serves.perform excuses)
      | _ => exact quiet (.revoking serves) rfl excuses

/-- A pass that is over has the outcome of its work, and every membership that it decides about is
settled. -/
theorem Serves.closes (serves : pass.Serves directory groups excused user work connections)
    {outcome : Outcome} (finished : pass.outcome? = some outcome) :
    outcome.Closes directory user work connections ∧
      work.Settled directory groups excused connections := by
  cases serves with
  | skipped principal =>
      cases finished
      exact ⟨⟨nofun, rfl⟩, nofun⟩
  | deciding found distinct faithful => cases finished
  | @reconciling _ _ batch found serves =>
      by_cases done : batch.isDone = true
      · simp only [outcome?, done, if_true] at finished
        cases finished
        obtain ⟨covers, carried⟩ := serves.done done
        exact ⟨⟨nofun, found, covers⟩, Work.settled_of_operations carried⟩
      · simp [outcome?, done] at finished
  | @revoking _ batch serves =>
      by_cases done : batch.isDone = true
      · simp only [outcome?, done, if_true] at finished
        cases finished
        obtain ⟨covers, carried⟩ := serves.done done
        exact ⟨⟨rfl, covers⟩, Work.settled_of_operations carried⟩
      · simp [outcome?, done] at finished

/-- The operations of a pass that have come to their end. -/
def recorded : Pass → List Operation
  | reconciling batch => batch.report.recorded
  | revoking batch => batch.report.recorded
  | _ => []

theorem recorded_settle (board : Switchboard) (pass : Pass) :
    (settle board pass).recorded = pass.recorded := by
  cases pass with
  | deciding user connections evaluation =>
      simp only [settle]
      split <;> rfl
  | _ => rfl

@[simp]
theorem recorded_start (board : Switchboard) (user : UserKey) (work : Work) :
    (start board user work).2.recorded = [] := by
  cases work with
  | revoke => rfl
  | reconcile principal =>
      simp only [start]
      split
      · rfl
      · rw [recorded_settle]
        rfl

/-- An operation is recorded when the answer to it comes about. -/
theorem recorded_perform {board : Switchboard} {passage : Passage} {spot : Spot}
    {operation : Operation}
    (now : operation ∈ (pass.perform board passage spot).2.recorded) :
    operation ∈ pass.recorded ∨
      ∃ delivery, board.attempt? passage spot (pass.inquiry? spot) =
        some ⟨operation, delivery⟩ := by
  cases pass with
  | skipped => cases spot <;> exact .inl now
  | deciding user connections evaluation =>
      cases spot with
      | question channel => exact .inl (by rwa [perform, recorded_settle] at now)
      | _ => exact .inl now
  | reconciling batch =>
      cases spot with
      | operation other => exact Batch.recorded_perform now
      | _ => exact .inl now
  | revoking batch =>
      cases spot with
      | operation other => exact Batch.recorded_perform now
      | _ => exact .inl now

/-- When a pass is over, all operations of its work are recorded. -/
theorem Serves.recorded_of_outcome {outcome : Outcome}
    (serves : pass.Serves directory groups excused user work connections)
    (finished : pass.outcome? = some outcome) :
    pass.recorded.Perm (work.operations directory connections) := by
  cases serves with
  | skipped principal => exact .refl _
  | deciding found distinct faithful => cases finished
  | @reconciling _ _ batch found serves =>
      cases done : batch.isDone with
      | true => exact (serves.done done).1.recorded_perm
      | false => simp [outcome?, done] at finished
  | @revoking _ batch serves =>
      cases done : batch.isDone with
      | true => exact (serves.done done).1.recorded_perm
      | false => simp [outcome?, done] at finished

end Pass
end ChannelMembership
