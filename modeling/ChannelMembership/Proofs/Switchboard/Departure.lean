import ChannelMembership.Proofs.Switchboard.Roster

/-!
# Operations in order

Whatever a strand is about to do, it issues its operations in order, and it attempts each of them at
most once, after it was issued.  This holds for whoever does a duty, and for a connection that is asked
to leave every known channel.
-/

namespace ChannelMembership

/-- How far some operations have come. -/
structure InOrder (operations issued : List Operation) (attempts : List Attempt) : Prop where
  /-- They are issued in order. -/
  order : issued <+: operations
  /-- Each is attempted at most once, and only after it was issued. -/
  attempted : (attempts.map Attempt.operation).Subperm issued

namespace InOrder

variable {operations issued : List Operation} {attempts : List Attempt}

/-- At first nothing has been issued. -/
theorem nothing (operations : List Operation) : InOrder operations [] [] :=
  ⟨⟨operations, rfl⟩, List.nil_subperm⟩

/-- In the end everything has been attempted. -/
theorem everything (all : (attempts.map Attempt.operation).Perm operations) :
    InOrder operations operations attempts :=
  ⟨⟨[], List.append_nil _⟩, all.subperm⟩

theorem mem_operations (inOrder : InOrder operations issued attempts) {attempt : Attempt}
    (member : attempt ∈ attempts) : attempt.operation ∈ operations :=
  inOrder.order.subset (inOrder.attempted.subset (List.mem_map_of_mem member))

/-- No two attempts concern the same membership if no two operations do. -/
theorem distinct (inOrder : InOrder operations issued attempts)
    (distinct : (operations.map Operation.pair).Nodup) :
    (attempts.map fun attempt => attempt.operation.pair).Nodup := by
  obtain ⟨rest, same⟩ := inOrder.order
  have first : (issued.map Operation.pair).Nodup := by
    rw [← same, List.map_append] at distinct
    exact distinct.of_append_left
  obtain ⟨chosen, permuted, sublist⟩ := inOrder.attempted
  have pairs := (permuted.map Operation.pair).nodup_iff.1 (first.sublist (sublist.map _))
  rwa [List.map_map] at pairs

end InOrder

theorem Batch.Accounts.inOrder {report : Report} {operations issued : List Operation}
    {attempts : List Attempt} {batch : Batch}
    (accounts : batch.Accounts report operations issued attempts) :
    InOrder operations issued attempts where
  order := ⟨batch.waiting, accounts.order⟩
  attempted := (List.sublist_append_left _ _).subperm.trans accounts.answered.subperm

theorem Pass.CarriesOut.inOrder {directory : Directory} {user : UserKey}
    {found : List Connection} {work : Work} {issued : List Operation} {attempts : List Attempt}
    {questions : List (Guard × Channel)} {pass : Pass}
    (carriesOut : pass.CarriesOut directory user found work issued attempts questions) :
    InOrder (work.operations directory found) issued attempts := by
  cases carriesOut with
  | reconciles reconciles =>
      cases reconciles with
      | skipped nobody => exact .nothing _
      | deciding faithful ahead => exact .nothing _
      | reconciling asked accounts => exact accounts.inOrder
  | revokes accounts => exact accounts.inOrder

/-- A strand does its duty in order. -/
theorem Strand.Tends.inOrder {board : Switchboard} {duty : Duty} {issued : List Operation}
    {attempts : List Attempt} {questions : List (Guard × Channel)} {strand : Strand}
    (tends : strand.Tends board duty issued attempts questions) :
    InOrder (duty.operations board) issued attempts := by
  cases tends with
  | queued idle demanded => exact .nothing _
  | offline offline => exact .nothing _
  | lookingUp online idle demanded => exact .nothing _
  | running online held steady carriesOut => exact carriesOut.inOrder
  | done online all asked => exact .everything all

/-- A strand that revokes memberships asks no guard. -/
theorem Strand.Tends.unasked {board : Switchboard} {duty : Duty} {issued : List Operation}
    {attempts : List Attempt} {questions : List (Guard × Channel)} {strand : Strand}
    (tends : strand.Tends board duty issued attempts questions) (revokes : duty.work = .revoke) :
    questions = [] := by
  cases tends with
  | queued idle demanded => rfl
  | offline offline => rfl
  | lookingUp online idle demanded => rfl
  | running online held steady carriesOut =>
      rw [revokes] at carriesOut
      cases carriesOut with
      | revokes accounts => rfl
  | done online all asked =>
      rw [revokes] at asked
      exact asked.eq_nil

namespace Strand

/-- How far a connection has come that is asked to leave every known channel. -/
inductive Departs (directory : Directory) (user : UserKey) (connection : Connection) :
    List Operation → List Attempt → Strand → Prop
  /-- Leaves are being carried out. -/
  | leaving {issued : List Operation} {attempts : List Attempt} {batch : Batch}
    (going : batch.isDone = false)
    (accounts : batch.Accounts (Report.start user 1) (Work.revoke.operations directory [connection])
      issued attempts) :
    Departs directory user connection issued attempts (.leaving batch false)
  /-- All leaves have been attempted. -/
  | left {attempts : List Attempt}
    (all : (attempts.map Attempt.operation).Perm (Work.revoke.operations directory [connection])) :
    Departs directory user connection (Work.revoke.operations directory [connection]) attempts
      (.ended (.revoked ((Report.start user 1).tell attempts)))

variable {directory : Directory} {user : UserKey} {connection : Connection}
  {issued : List Operation} {attempts : List Attempt} {batch : Batch} {strand : Strand}

theorem departs_ofLeaves
    (accounts : batch.Accounts (Report.start user 1) (Work.revoke.operations directory [connection])
      issued attempts) :
    (ofLeaves batch false).Departs directory user connection issued attempts := by
  cases done : batch.isDone with
  | false =>
      simp only [ofLeaves, done]
      exact .leaving done accounts
  | true =>
      obtain ⟨rfl, all⟩ := accounts.done done
      simp only [ofLeaves, done, if_true, accounts.told]
      exact .left all

theorem Departs.inOrder (departs : strand.Departs directory user connection issued attempts) :
    InOrder (Work.revoke.operations directory [connection]) issued attempts := by
  cases departs with
  | leaving going accounts => exact accounts.inOrder
  | left all => exact .everything all

/-- A connection that has been asked to leave every known channel has answered each time. -/
theorem Departs.of_isOver (departs : strand.Departs directory user connection issued attempts)
    (finished : strand.isOver = true) :
    issued = Work.revoke.operations directory [connection] ∧
      (attempts.map Attempt.operation).Perm (Work.revoke.operations directory [connection]) := by
  cases departs with
  | leaving going accounts => cases finished
  | left all => exact ⟨rfl, all⟩

theorem Departs.ne_queued (departs : strand.Departs directory user connection issued attempts)
    (other : UserKey) : strand ≠ .queued other := by
  cases departs <;> nofun

/-- The strand goes on with the answer at a spot; no guard is asked. -/
theorem Departs.perform (departs : strand.Departs directory user connection issued attempts)
    (board : Switchboard) (passage : Passage) (spot : Spot) :
    (strand.perform board passage spot).2.Departs directory user connection
        (issued ++ issuedBetween strand.underWay (strand.perform board passage spot).2.underWay
          (board.attempt? passage spot (strand.inquiry? spot)))
        (attempts ++ (board.attempt? passage spot (strand.inquiry? spot)).toList) ∧
      (strand.inquiry? spot).bind Inquiry.question? = none := by
  cases departs with
  | @leaving issued attempts batch going accounts =>
      cases spot with
      | operation operation =>
          refine ⟨?_, ?_⟩
          · rw [underWay_leaving]
            simp only [Strand.perform, underWay_ofLeaves]
            exact departs_ofLeaves (accounts.perform board passage operation)
          · simp only [Strand.inquiry?]
            split <;> rfl
      | _ => simpa [Strand.perform, Strand.inquiry?] using Departs.leaving going accounts
  | left all => simpa [Strand.perform, Strand.inquiry?] using Departs.left all

theorem Departs.ends (departs : strand.Departs directory user connection issued attempts)
    (board : Switchboard) : strand.Ends board := by
  cases departs with
  | @leaving issued attempts batch going accounts =>
      have same : Strand.leaving batch false = ofLeaves batch false := by
        simp [ofLeaves, going]
      rw [same]
      exact ends_ofLeaves false board
  | left all => exact ends_of_isOver rfl

/-- A strand on which a connection leaves comes one step further. -/
theorem Departs.next (moment : Moment) {position : Nat}
    (departs : strand.Departs directory user connection issued attempts)
    (found : moment.system.strands[position]? = some strand)
    (furthers : moment.event.Furthers position) :
    moment.questionOf? position = none ∧
      ∃ after, moment.next.strands[position]? = some after ∧
        after.Departs directory user connection (issued ++ moment.issues position)
          (attempts ++ (moment.attemptOf? position).toList) := by
  cases moment.turn found departs.ne_queued with
  | stays strand_eq elsewhere =>
      have unattempted := Moment.attemptOf?_eq_none elsewhere
      refine ⟨Moment.questionOf?_eq_none elsewhere, strand, strand_eq, ?_⟩
      simpa [Moment.issues_eq_nil found strand_eq unattempted, unattempted] using departs
  | answers spot passage event strand_eq board_eq =>
      obtain ⟨later, unasked⟩ := departs.perform moment.system.board passage spot
      rw [Moment.questionOf?_of_perform event found, Moment.issues_eq found strand_eq,
        Moment.attemptOf?_of_perform event found]
      exact ⟨unasked, _, strand_eq, later⟩
  | expires event strand_eq board_eq =>
      rw [event] at furthers
      cases furthers
  | abandoned kept event strand_eq =>
      rw [event] at furthers
      cases furthers

end Strand

/-- A connection is asked to leave every known channel, and nothing else happens. -/
theorem System.departs_run (system : System) (user : UserKey) (connection : Connection)
    {rest : List Event} (secluded : Secluded system.strands.length 1 rest) :
    questionsOf system.strands.length
        (system.moments (.submit (.revokeConnection user connection) :: rest)) = [] ∧
      ∃ strand, (system.run (.submit (.revokeConnection user connection) :: rest)).strands[
          system.strands.length]? = some strand ∧
        strand.Departs system.board.directory user connection
          (issuedBy system.strands.length
            (system.moments (.submit (.revokeConnection user connection) :: rest)))
          (attemptsOf system.strands.length
            (system.moments (.submit (.revokeConnection user connection) :: rest))) := by
  induction rest using List.reverseRecOn with
  | nil =>
      have found : (system.step (.submit (.revokeConnection user connection))).strands[
          system.strands.length]? =
            some (Strand.leaveAll system.board user connection false).2 :=
        List.getElem?_concat_length
      obtain ⟨issued, attempts, questions⟩ := system.history_of_submit _ le_rfl found
      rw [issued, attempts]
      refine ⟨questions, _, found, ?_⟩
      simp only [Strand.leaveAll, ← Work.operations_revoke_singleton, Strand.underWay_ofLeaves]
      exact Strand.departs_ofLeaves (Batch.accounts_start _ _ _)
  | append_singleton rest event induction =>
      obtain ⟨index, inside, furthers⟩ :=
        secluded event (List.mem_append_right _ List.mem_cons_self)
      obtain rfl : index = 0 := by omega
      obtain ⟨unasked, strand, found, departs⟩ := induction secluded.of_append
      obtain ⟨still, later⟩ := departs.next
        ⟨system.run (.submit (.revokeConnection user connection) :: rest), event⟩ found furthers
      rw [← List.cons_append, run_concat, moments_concat, issuedBy_concat, attemptsOf_concat,
        questionsOf_concat, unasked, still]
      exact ⟨rfl, later⟩

end ChannelMembership
