import Mathlib.Data.List.Nodup
import ChannelMembership.Switchboard.State

/-!
# What a batch has done

An operation decides about one membership, that of its connection in the group of its channel.  A
batch keeps account of every operation issued: it is waiting, under way or recorded, each exactly
once.  Operations that are recorded have had their effect, except where there is an excuse: the
operation failed, or somebody else came afterwards.
-/

namespace ChannelMembership

namespace Operation

/-- The membership that the operation decides about. -/
def pair (operation : Operation) : Connection × Channel :=
  (operation.connection, operation.channel)

/-- Whether the operation makes the connection a member. -/
def isJoin (operation : Operation) : Bool := operation.action = .join

@[simp]
theorem pair_join (connection : Connection) (channel : Channel) :
    (join connection channel).pair = (connection, channel) := rfl

@[simp]
theorem pair_leave (connection : Connection) (channel : Channel) :
    (leave connection channel).pair = (connection, channel) := rfl

@[simp]
theorem isJoin_join (connection : Connection) (channel : Channel) :
    (join connection channel).isJoin = true := rfl

@[simp]
theorem isJoin_leave (connection : Connection) (channel : Channel) :
    (leave connection channel).isJoin = false := rfl

end Operation

namespace Groups

/-- The groups after an operation has come to its end. -/
def after (groups : Groups) (operation : Operation) : Delivery → Groups
  | .error _ => groups
  | .ok () =>
    match operation.action with
    | .join => groups.join operation.connection operation.channel
    | .leave => groups.leave operation.connection operation.channel

theorem isMember_after_self (groups : Groups) (operation : Operation) :
    (groups.after operation (.ok ())).isMember operation.channel operation.connection =
      operation.isJoin := by
  obtain ⟨action, connection, channel⟩ := operation
  rw [Bool.eq_iff_iff]
  cases action <;> simp [after, Operation.isJoin]

theorem isMember_after_of_ne (groups : Groups) {operation : Operation} {connection : Connection}
    {channel : Channel} (delivery : Delivery) (other : (connection, channel) ≠ operation.pair) :
    (groups.after operation delivery).isMember channel connection =
      groups.isMember channel connection := by
  cases delivery with
  | error error => rfl
  | ok done =>
      obtain ⟨action, connection', channel'⟩ := operation
      have apart : ¬(channel = channel' ∧ connection = connection') := by
        rintro ⟨rfl, rfl⟩
        exact other rfl
      rw [Bool.eq_iff_iff]
      cases action <;> simp [after, apart]

end Groups

namespace Switchboard

/-- The group memberships on the transport. -/
abbrev groups (board : Switchboard) : Groups := board.link.exchange.groups

theorem call_eq (board : Switchboard) (passage : Passage) (call : Call) :
    (board.call passage call).1 = { board with link := (board.call passage call).1.link } := by
  cases passage <;> rfl

/-- A call that fails changes no membership; an operation that succeeds has its effect. -/
theorem groups_call (board : Switchboard) (passage : Passage) (operation : Operation) :
    (board.call passage operation.call).1.groups =
      board.groups.after operation (board.call passage operation.call).2 := by
  cases passage with
  | blocked error => rfl
  | through =>
      obtain ⟨action, connection, channel⟩ := operation
      cases interference : board.link.interference with
      | none =>
          cases action <;> simp [call, Link.request, interference, Operation.call, Link.direct,
            Exchange.accept, Exchange.carryOut, Groups.after]
      | some rules =>
          cases struck : rules.draw.2 <;> cases action <;>
            simp [call, Link.request, interference, struck, Operation.call, Link.direct,
              Exchange.accept, Exchange.carryOut, Groups.after]

end Switchboard

namespace Report

/-- The operations that have come to their end, successful or not. -/
def recorded (report : Report) : List Operation :=
  report.applied ++ report.failures.map Prod.fst

theorem recorded_record (report : Report) (operation : Operation) (delivery : Delivery) :
    ((report.record operation delivery).recorded).Perm (operation :: report.recorded) := by
  cases delivery with
  | ok done =>
      simp only [record, recorded, List.append_assoc, List.singleton_append]
      exact List.perm_middle
  | error error =>
      simp only [record, recorded, List.map_append, List.map_cons, List.map_nil]
      rw [← List.append_assoc]
      exact List.perm_append_singleton _ _

end Report

namespace Batch

/-- The operations that have not yet come to their end. -/
def pending (batch : Batch) : List Operation := batch.underWay ++ batch.waiting

@[simp]
theorem pending_start (bound : Nat) (report : Report) (operations : List Operation) :
    (start bound report operations).pending = operations :=
  underWay_append_waiting_start bound report operations

/-- While something waits, something is under way. -/
def Steady (batch : Batch) : Prop := batch.underWay = [] → batch.waiting = []

theorem steady_start (bound : Nat) (report : Report) (operations : List Operation) :
    (start bound report operations).Steady := by
  intro idle
  have positive := atLeastOne_pos bound
  cases operations with
  | nil => simp [start]
  | cons operation rest =>
      simp only [start, List.take_eq_nil_iff] at idle
      rcases idle with zero | none
      · omega
      · cases none

theorem Steady.complete {batch : Batch} (steady : batch.Steady) (operation : Operation)
    (delivery : Delivery) : (batch.complete operation delivery).Steady := by
  unfold Batch.complete
  split
  · intro idle
    simp only [List.append_eq_nil_iff] at idle
    cases waiting : batch.waiting with
    | nil => simp
    | cons next rest => simp [waiting] at idle
  · exact steady

/-- A batch at work on the operations issued to it. -/
structure Works (groups : Groups) (excused : Connection → Channel → Prop)
    (issued : List Operation) (batch : Batch) : Prop where
  /-- While something waits, something is under way. -/
  steady : batch.underWay = [] → batch.waiting = []
  /-- Every operation issued is recorded or pending, and nothing else is. -/
  accounted : (batch.report.recorded ++ batch.pending).Perm issued
  /-- What is not pending has had its effect, or is excused. -/
  carried : ∀ operation ∈ issued, operation ∈ batch.pending ∨
    excused operation.connection operation.channel ∨
      groups.isMember operation.channel operation.connection = operation.isJoin

variable {groups : Groups} {excused : Connection → Channel → Prop} {issued : List Operation}
  {batch : Batch}

theorem works_start (groups : Groups) (excused : Connection → Channel → Prop) (bound : Nat)
    {report : Report} (blank : report.recorded = []) (issued : List Operation) :
    (start bound report issued).Works groups excused issued where
  steady := steady_start bound report issued
  accounted := by
    rw [pending_start]
    simp [start, blank]
  carried := by
    intro operation member
    exact .inl (by rwa [pending_start])

theorem Works.issued_of_underWay (works : batch.Works groups excused issued)
    {operation : Operation} (underWay : operation ∈ batch.underWay) : operation ∈ issued :=
  works.accounted.subset
    (List.mem_append_right _ (List.mem_append_left _ underWay))

/-- Excuses may grow, and whatever else happens to the memberships needs an excuse. -/
theorem Works.mono (works : batch.Works groups excused issued) {groups' : Groups}
    {excused' : Connection → Channel → Prop}
    (kept : ∀ operation ∈ issued,
      excused operation.connection operation.channel →
        excused' operation.connection operation.channel)
    (frame : ∀ operation ∈ issued,
      excused' operation.connection operation.channel ∨
        groups'.isMember operation.channel operation.connection =
          groups.isMember operation.channel operation.connection) :
    batch.Works groups' excused' issued where
  steady := works.steady
  accounted := works.accounted
  carried := by
    intro operation member
    rcases works.carried operation member with waits | excuse | effect
    · exact .inl waits
    · exact .inr (.inl (kept operation member excuse))
    · rcases frame operation member with excuse | same
      · exact .inr (.inl excuse)
      · exact .inr (.inr (same.trans effect))

/-- What is pending after an operation has come to its end. -/
theorem pending_complete {operation : Operation} (underWay : operation ∈ batch.underWay)
    (delivery : Delivery) :
    (batch.complete operation delivery).pending =
      batch.underWay.erase operation ++ batch.waiting := by
  simp only [complete, underWay, if_true, pending, List.append_assoc, List.take_append_drop]

theorem Works.accounted_complete (works : batch.Works groups excused issued)
    {operation : Operation} (underWay : operation ∈ batch.underWay) (delivery : Delivery) :
    ((batch.complete operation delivery).report.recorded ++
      (batch.complete operation delivery).pending).Perm issued := by
  rw [pending_complete underWay]
  have recorded := batch.report.recorded_record operation delivery
  have taken := List.perm_cons_erase underWay
  simp only [complete, underWay, if_true]
  calc
    List.Perm ((batch.report.record operation delivery).recorded ++
        (batch.underWay.erase operation ++ batch.waiting))
        ((operation :: batch.report.recorded) ++
          (batch.underWay.erase operation ++ batch.waiting)) :=
      recorded.append_right _
    List.Perm _ (batch.report.recorded ++
        (operation :: batch.underWay.erase operation ++ batch.waiting)) :=
      List.perm_middle.symm
    List.Perm _ (batch.report.recorded ++ batch.pending) :=
      (taken.symm.append_right batch.waiting).append_left _
    List.Perm _ issued := works.accounted

/-- An operation under way comes to its end: it has its effect, or its failure is an excuse. -/
theorem Works.perform {board : Switchboard} (works : batch.Works board.groups excused issued)
    (distinct : (issued.map Operation.pair).Nodup) (passage : Passage) {operation : Operation}
    (underWay : operation ∈ batch.underWay) {excused' : Connection → Channel → Prop}
    (kept : ∀ connection channel, (connection, channel) ≠ operation.pair →
      excused connection channel → excused' connection channel)
    (blamed : (board.call passage operation.call).2 = .ok () ∨
      excused' operation.connection operation.channel) :
    (batch.perform board passage operation).2.Works
      (batch.perform board passage operation).1.groups excused' issued := by
  have effect := board.groups_call passage operation
  simp only [Batch.perform, underWay, if_true]
  generalize board.call passage operation.call = called at blamed effect ⊢
  obtain ⟨after, delivery⟩ := called
  refine ⟨Steady.complete works.steady operation delivery,
    works.accounted_complete underWay delivery, fun other member => ?_⟩
  · by_cases same : other = operation
    · subst same
      refine .inr ?_
      rcases blamed with delivered | excuse
      · simp only at delivered effect
        rw [effect, delivered]
        exact .inr (board.groups.isMember_after_self other)
      · exact .inl excuse
    · have apart : (other.connection, other.channel) ≠ operation.pair := by
        intro equal
        exact same (List.inj_on_of_nodup_map distinct member
          (works.issued_of_underWay underWay) equal)
      rcases works.carried other member with waits | excuse | carried
      · refine .inl ?_
        rw [pending_complete underWay]
        rcases List.mem_append.1 waits with busy | queued
        · exact List.mem_append_left _ ((List.mem_erase_of_ne same).2 busy)
        · exact List.mem_append_right _ queued
      · exact .inr (.inl (kept _ _ apart excuse))
      · refine .inr (.inr ?_)
        simp only at effect
        rw [effect, board.groups.isMember_after_of_ne delivery apart, carried]

/-- When the batch is done, every operation issued is recorded and has had its effect. -/
theorem Works.done (works : batch.Works groups excused issued) (done : batch.isDone = true) :
    batch.report.recorded.Perm issued ∧ ∀ operation ∈ issued,
      excused operation.connection operation.channel ∨
        groups.isMember operation.channel operation.connection = operation.isJoin := by
  have idle : batch.underWay = [] := List.isEmpty_iff.1 done
  have nothing : batch.pending = [] := by simp [pending, idle, works.steady idle]
  constructor
  · simpa [nothing] using works.accounted
  · intro operation member
    simpa [nothing] using works.carried operation member

end Batch
end ChannelMembership
