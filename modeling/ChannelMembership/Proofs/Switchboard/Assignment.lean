import ChannelMembership.Proofs.Switchboard.Pass
import ChannelMembership.Switchboard.Assignment

/-!
# What an assignment achieves

An assignment issues joins only.  It brings the memberships of its connection in line with the
principal if the connection is in no group when it begins.
-/

namespace ChannelMembership

/-- The joins of a connection to the channels authorised for a principal. -/
def Directory.joins (directory : Directory) (principal : Principal) (connection : Connection) :
    List Operation :=
  (directory.authorize principal).authorized.map (Operation.join connection)

variable {directory : Directory} {principal : Principal} {connection : Connection}

theorem Directory.mem_joins (operation : Operation) :
    operation ∈ directory.joins principal connection ↔
      operation.connection = connection ∧ operation.isJoin = true ∧
        directory.governs operation.channel = true ∧
          directory.grants principal operation.channel = true := by
  simp only [joins, List.mem_map, mem_authorized]
  constructor
  · rintro ⟨channel, ⟨governed, granted⟩, rfl⟩
    exact ⟨rfl, rfl, governed, granted⟩
  · rintro ⟨rfl, joins, governed, granted⟩
    obtain ⟨action, connection, channel⟩ := operation
    cases action with
    | join => exact ⟨channel, ⟨governed, granted⟩, rfl⟩
    | leave => cases joins

theorem Directory.nodup_joins (directory : Directory) (principal : Principal)
    (connection : Connection) :
    ((directory.joins principal connection).map Operation.pair).Nodup := by
  have pairs : (directory.joins principal connection).map Operation.pair =
      (directory.authorize principal).authorized.map fun channel => (connection, channel) := by
    simp [joins, Function.comp_def]
  rw [pairs]
  exact (directory.nodup_channels.filter _).map fun _ _ same => congrArg Prod.snd same

namespace Assignment

/-- An assignment at work for a connection.  A membership without a join is not to be, or it is
excused. -/
inductive Serves (directory : Directory) (groups : Groups)
    (excused : Connection → Channel → Prop) (user : UserKey) (principal : Principal)
    (connection : Connection) : Assignment → Prop
  /-- The questioning will come to the decisions of the directory. -/
  | deciding {evaluation : Evaluation} (faithful : evaluation.Faithful directory principal)
    (absent : ∀ channel, excused connection channel ∨
      groups.isMember channel connection = false) :
    Serves directory groups excused user principal connection
      (deciding user connection evaluation)
  /-- The joins of the authorised channels are carried out. -/
  | joining {batch : Batch}
    (serves : batch.Serves groups excused user 1 (directory.joins principal connection))
    (absent : ∀ channel, directory.grants principal channel = false →
      excused connection channel ∨ groups.isMember channel connection = false) :
    Serves directory groups excused user principal connection (joining connection batch)

variable {groups groups' : Groups} {excused excused' : Connection → Channel → Prop}
  {user : UserKey} {assignment : Assignment}

theorem Serves.settle {board : Switchboard}
    (serves : assignment.Serves board.directory groups excused user principal connection) :
    (settle board assignment).Serves board.directory groups excused user principal connection := by
  cases serves with
  | joining serves absent => exact .joining serves absent
  | @deciding evaluation faithful absent =>
      by_cases done : evaluation.isDone = true
      · simp only [Assignment.settle, done, if_true, faithful.partition_eq done]
        exact .joining (Batch.serves_start groups excused _ user 1
          (board.directory.nodup_joins principal connection)) (fun channel _ => absent channel)
      · simp only [Assignment.settle, done]
        exact .deciding faithful absent

theorem serves_start (board : Switchboard) (user : UserKey) (principal : Principal)
    (absent : ∀ channel, excused connection channel ∨
      groups.isMember channel connection = false) :
    (start board user principal connection).2.Serves board.directory groups excused user principal
      connection :=
  Serves.settle (.deciding (Evaluation.faithful_start board.directory principal) absent)

theorem Serves.mono
    (serves : assignment.Serves directory groups excused user principal connection)
    (kept : ∀ channel, excused connection channel → excused' connection channel)
    (frame : ∀ channel, excused' connection channel ∨
      groups'.isMember channel connection = groups.isMember channel connection) :
    assignment.Serves directory groups' excused' user principal connection := by
  have absent {channel : Channel}
      (before : excused connection channel ∨ groups.isMember channel connection = false) :
      excused' connection channel ∨ groups'.isMember channel connection = false := by
    rcases before with excuse | outside
    · exact .inl (kept channel excuse)
    · exact (frame channel).imp_right fun same => same.trans outside
  cases serves with
  | deciding faithful outside =>
      exact .deciding faithful fun channel => absent (outside channel)
  | joining serves outside =>
      refine .joining (serves.mono (fun operation member => ?_) fun operation member => ?_)
        fun channel refused => absent (outside channel refused)
      · rw [((Directory.mem_joins operation).1 member).1]
        exact kept operation.channel
      · rw [((Directory.mem_joins operation).1 member).1]
        exact frame operation.channel

/-- Only the joins of the connection are attempted. -/
theorem Serves.attempts {board : Switchboard}
    (serves : assignment.Serves directory groups excused user principal connection)
    {passage : Passage} {spot : Spot} {attempt : Attempt}
    (attempted : board.attempt? passage spot (assignment.inquiry? spot) = some attempt) :
    attempt.operation ∈ directory.joins principal connection := by
  obtain ⟨rfl, asked, -⟩ := Switchboard.attempt?_eq_some attempted
  cases serves with
  | deciding faithful absent => cases asked
  | joining serves absent => exact serves.attempts attempted

/-- An assignment goes on serving when the answer at one of its spots comes about. -/
theorem Serves.perform {board : Switchboard}
    (serves : assignment.Serves board.directory board.groups excused user principal connection)
    {passage : Passage} {spot : Spot}
    (excuses : Excuses (board.attempt? passage spot (assignment.inquiry? spot)) excused
      excused') :
    (assignment.perform board passage spot).2.Serves board.directory
      (assignment.perform board passage spot).1.groups excused' user principal connection := by
  have quiet (nothing : board.attempt? passage spot (assignment.inquiry? spot) = none) :
      assignment.Serves board.directory board.groups excused' user principal connection := by
    rw [nothing] at excuses
    exact serves.mono (excuses.kept_of_none connection) (fun _ => .inr rfl)
  cases serves with
  | deciding faithful absent =>
      cases spot with
      | question channel =>
          cases quiet rfl with
          | deciding faithful absent => exact Serves.settle (.deciding (faithful.ask channel) absent)
      | _ => exact quiet rfl
  | @joining batch serves absent =>
      cases spot with
      | operation operation =>
          refine .joining (serves.perform excuses) fun channel refused => ?_
          have other : ∀ attempt ∈ batch.attempt? board passage operation,
              attempt.operation.pair ≠ (connection, channel) := by
            intro attempt attempted same
            have working := Serves.joining serves absent
            obtain ⟨-, -, -, granted⟩ := (Directory.mem_joins _).1 (working.attempts attempted)
            have here : attempt.operation.channel = channel := congrArg Prod.snd same
            rw [here, refused] at granted
            cases granted
          rcases absent channel refused with excuse | outside
          · exact .inl (excuses.kept connection channel other excuse)
          · refine .inr ?_
            have same := board.groups.isMember_afterAttempt_of_ne other
            rw [← batch.groups_perform] at same
            exact same.trans outside
      | _ => exact quiet rfl

/-- When every join has completed, the memberships of the connection are as the principal's work
wants them, or they are excused. -/
theorem Serves.closes
    (serves : assignment.Serves directory groups excused user principal connection)
    {report : Report} (finished : assignment.report? = some report) :
    report.Covers user 1 (directory.joins principal connection) ∧
      (Work.reconcile principal).Settled directory groups excused [connection] := by
  cases serves with
  | deciding faithful absent => cases finished
  | @joining batch serves absent =>
      by_cases done : batch.isDone = true
      · simp only [report?, done, if_true] at finished
        cases finished
        obtain ⟨covers, carried⟩ := serves.done done
        refine ⟨covers, fun other member channel governed => ?_⟩
        cases List.mem_singleton.1 member
        cases granted : directory.grants principal channel with
        | false =>
            have outside := absent channel granted
            simpa [Work.grants, granted] using outside
        | true =>
            have joined := carried (.join connection channel)
              ((Directory.mem_joins _).2 ⟨rfl, rfl, governed, granted⟩)
            rw [Work.grants, granted]
            exact joined
      · simp [report?, done] at finished

end Assignment
end ChannelMembership
