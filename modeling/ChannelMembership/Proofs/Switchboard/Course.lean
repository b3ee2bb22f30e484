import ChannelMembership.Proofs.NobodyFound
import ChannelMembership.Proofs.Revocation

/-!
# The course of a pass

A pass begins on a strand when a connection is set up or assigned, when work enters an idle slot, when a
run goes on with parked work, when a setup runs out of time, and when a connection is asked to leave
every known channel.  From then on the strand issues the operations of the pass in order, no more of
them at once than may be, and attempts each of them once.  It ends when all of them have been attempted.
-/

namespace ChannelMembership

namespace System

theorem step_bound (system : System) (event : Event) :
    (system.step event).board.bound = system.board.bound := by
  rw [step_board]
  rfl

theorem run_bound (system : System) (events : List Event) :
    (system.run events).board.bound = system.board.bound := by
  induction events generalizing system with
  | nil => rfl
  | cons event rest induction => rw [run_cons, induction, step_bound]

end System

section Within

theorem Batch.length_underWay_start_le (bound : Nat) (report : Report)
    (operations : List Operation) :
    (start bound report operations).underWay.length ≤ atLeastOne bound :=
  List.length_take_le _ _

/-- For each operation that comes to its end, at most one is issued. -/
theorem Batch.length_underWay_perform_le (batch : Batch) (board : Switchboard) (passage : Passage)
    (operation : Operation) :
    (batch.perform board passage operation).2.underWay.length ≤ batch.underWay.length := by
  by_cases underWay : operation ∈ batch.underWay
  · have positive := List.length_pos_of_mem underWay
    simp only [Batch.perform, complete, underWay, if_true, List.length_append,
      List.length_erase_of_mem, List.length_take]
    omega
  · simp [Batch.perform, underWay]

theorem Pass.length_underWay_settle_le (board : Switchboard) (user : UserKey)
    (found : List Connection) (evaluation : Evaluation) :
    (settle board (deciding user found evaluation)).underWay.length ≤ atLeastOne board.bound := by
  cases done : evaluation.isDone with
  | false => simp [settle, done]
  | true =>
      simp only [settle, done, if_true, underWay_reconciling]
      exact Batch.length_underWay_start_le _ _ _

theorem Pass.length_underWay_start_le (board : Switchboard) (user : UserKey) (work : Work) :
    (start board user work).2.underWay.length ≤ atLeastOne board.bound := by
  cases work with
  | reconcile principal =>
      simp only [start]
      split
      · simp
      · exact length_underWay_settle_le board user _ _
  | revoke =>
      simp only [start, underWay_revoking]
      exact Batch.length_underWay_start_le _ _ _

/-- A pass never has more operations under way than may be. -/
theorem Pass.length_underWay_perform_le {pass : Pass} {board : Switchboard}
    (within : pass.underWay.length ≤ atLeastOne board.bound) (passage : Passage) (spot : Spot) :
    (pass.perform board passage spot).2.underWay.length ≤ atLeastOne board.bound := by
  cases pass with
  | skipped => exact within
  | deciding user found evaluation =>
      cases spot with
      | question channel => exact length_underWay_settle_le board user found _
      | _ => exact within
  | reconciling batch =>
      cases spot with
      | operation operation =>
          rw [underWay_reconciling] at within
          simp only [Pass.perform, underWay_reconciling]
          exact (batch.length_underWay_perform_le board passage operation).trans within
      | _ => exact within
  | revoking batch =>
      cases spot with
      | operation operation =>
          rw [underWay_revoking] at within
          simp only [Pass.perform, underWay_revoking]
          exact (batch.length_underWay_perform_le board passage operation).trans within
      | _ => exact within

end Within

namespace Outcome

/-- The report to which a pass has come, if it has come to one. -/
def report? : Outcome → Option Report
  | applied report => some report
  | revoked report => some report
  | _ => none

/-- What a pass comes to that has a report to give.  There may be nobody to be served, and then there is
no operation. -/
def Gives (operations : List Operation) (report : Report) (outcome : Outcome) : Prop :=
  outcome.report? = some report ∨ operations = [] ∧ outcome = .noConnections

end Outcome

namespace Conclusion

/-- The report with which a strand ended, if it ended with one. -/
def report? : Conclusion → Option Report
  | connected report => some report
  | failedClosed report => some report
  | assigned report => some report
  | revoked report => some report
  | settled outcome => outcome.report?
  | _ => none

/-- How a strand ends whose pass has a report to give: with the report, or with the error of the look-up
that called for the pass.  There may be nobody to be served, and then there is no operation. -/
def Gives (operations : List Operation) (failure : Option LookupError) (report : Report)
    (conclusion : Conclusion) : Prop :=
  match failure with
  | some error => conclusion = .refused (.lookup error)
  | none =>
    conclusion.report? = some report ∨ operations = [] ∧ conclusion = .settled .noConnections

theorem gives_settled {operations : List Operation} {report : Report} {outcome : Outcome}
    (gives : outcome.Gives operations report) :
    (settled outcome).Gives operations none report :=
  gives.imp_right fun nobody => ⟨nobody.1, congrArg settled nobody.2⟩

/-- A strand that ends with a report ends with that of its pass. -/
theorem Gives.report_eq {operations : List Operation} {failure : Option LookupError}
    {report told : Report} {conclusion : Conclusion}
    (gives : conclusion.Gives operations failure report) (ended : conclusion.report? = some told) :
    told = report := by
  cases failure with
  | some error =>
      obtain rfl : conclusion = .refused (.lookup error) := gives
      cases ended
  | none =>
      obtain given | ⟨-, rfl⟩ := gives
      · exact Option.some.inj (ended.symm.trans given)
      · cases ended

end Conclusion

/-- When a pass is over, it has issued and attempted all its operations, and it gives an account of
them. -/
theorem Pass.CarriesOut.gives {pass : Pass} {directory : Directory} {user : UserKey}
    {found : List Connection} {work : Work} {issued : List Operation} {attempts : List Attempt}
    {questions : List (Guard × Channel)} {outcome : Outcome}
    (carriesOut : pass.CarriesOut directory user found work issued attempts questions)
    (finished : pass.outcome? = some outcome) :
    pass.underWay = [] ∧ issued = work.operations directory found ∧
      (attempts.map Attempt.operation).Perm issued ∧
      outcome.Gives issued ((Report.start user found.length).tell attempts) := by
  obtain ⟨idle, ⟨rfl, rfl, rfl, rfl⟩ | ⟨all, attempted, -, rfl⟩⟩ := carriesOut.outcome_cases finished
  · exact ⟨idle, rfl, .refl _, .inr ⟨rfl, rfl⟩⟩
  · refine ⟨idle, all, attempted, .inl ?_⟩
    cases work <;> rfl

namespace Strand

/-- How far a strand has come with the operations of a pass, in operations issued and attempted, where
a number of them may be under way at once. -/
inductive CarriesOut (directory : Directory) (bound : Nat) (operations : List Operation)
    (failure : Option LookupError) : List Operation → List Attempt → Strand → Prop
  /-- A user is served. -/
  | running {issued : List Operation} {attempts : List Attempt} {user : UserKey}
    {found : List Connection} {work : Work} {questions : List (Guard × Channel)} {run : Run}
    (wanted : operations = work.operations directory found)
    (within : run.pass.underWay.length ≤ bound)
    (carriesOut : run.pass.CarriesOut directory user found work issued attempts questions) :
    CarriesOut directory bound operations failure issued attempts (.running run failure)
  /-- A principal is being authorised for a connection. -/
  | deciding {user : UserKey} {principal : Principal} {connection : Connection}
    {evaluation : Evaluation} {limited : Bool} (unfailed : failure = none)
    (wanted : operations = directory.joins principal connection)
    (faithful : evaluation.Faithful directory principal) :
    CarriesOut directory bound operations failure [] []
      (.assigning user (.deciding user connection evaluation) limited)
  /-- A connection is being joined to its channels. -/
  | joining {issued : List Operation} {attempts : List Attempt} {user : UserKey}
    {connection : Connection} {batch : Batch} {limited : Bool} (unfailed : failure = none)
    (within : batch.underWay.length ≤ bound)
    (accounts : batch.Accounts (Report.start user 1) operations issued attempts) :
    CarriesOut directory bound operations failure issued attempts
      (.assigning user (.joining connection batch) limited)
  /-- A connection is being asked to leave every known channel. -/
  | leaving {issued : List Operation} {attempts : List Attempt} {user : UserKey} {batch : Batch}
    {expired : Bool} (unfailed : failure = none) (within : batch.underWay.length ≤ bound)
    (accounts : batch.Accounts (Report.start user 1) operations issued attempts) :
    CarriesOut directory bound operations failure issued attempts (.leaving batch expired)
  /-- All operations have been attempted. -/
  | ended {attempts : List Attempt} {conclusion : Conclusion} (user : UserKey) (connections : Nat)
    (all : (attempts.map Attempt.operation).Perm operations)
    (gives : conclusion.Gives operations failure ((Report.start user connections).tell attempts)) :
    CarriesOut directory bound operations failure operations attempts (.ended conclusion)
  /-- The strand was given up. -/
  | dropped {issued : List Operation} {attempts : List Attempt}
    (inOrder : InOrder operations issued attempts) :
    CarriesOut directory bound operations failure issued attempts .dropped

variable {board : Switchboard} {directory : Directory} {bound : Nat}
  {operations issued : List Operation} {failure : Option LookupError} {attempts : List Attempt}
  {user : UserKey} {principal : Principal} {connection : Connection} {batch : Batch} {run : Run}
  {found : List Connection} {work : Work} {questions : List (Guard × Channel)} {strand : Strand}

theorem CarriesOut.inOrder
    (carriesOut : strand.CarriesOut directory bound operations failure issued attempts) :
    InOrder operations issued attempts := by
  cases carriesOut with
  | running wanted within carriesOut =>
      rw [wanted]
      exact carriesOut.inOrder
  | deciding unfailed wanted faithful => exact .nothing _
  | joining unfailed within accounts => exact accounts.inOrder
  | leaving unfailed within accounts => exact accounts.inOrder
  | ended user connections all gives => exact .everything all
  | dropped inOrder => exact inOrder

/-- What was issued has been attempted or is under way, unless the strand was given up. -/
theorem CarriesOut.answered
    (carriesOut : strand.CarriesOut directory bound operations failure issued attempts)
    (kept : strand ≠ .dropped) :
    (attempts.map Attempt.operation ++ strand.underWay).Perm issued := by
  cases carriesOut with
  | running wanted within carriesOut => exact carriesOut.answered
  | deciding unfailed wanted faithful =>
      rw [underWay_deciding]
      exact .refl _
  | joining unfailed within accounts =>
      rw [underWay_joining]
      exact accounts.answered
  | leaving unfailed within accounts =>
      rw [underWay_leaving]
      exact accounts.answered
  | ended user connections all gives => simpa using all
  | dropped inOrder => exact absurd rfl kept

theorem CarriesOut.length_underWay_le
    (carriesOut : strand.CarriesOut directory bound operations failure issued attempts) :
    strand.underWay.length ≤ bound := by
  cases carriesOut with
  | running wanted within carriesOut => exact within
  | joining unfailed within accounts => rwa [underWay_joining]
  | leaving unfailed within accounts => rwa [underWay_leaving]
  | _ => simp

theorem CarriesOut.ne_queued
    (carriesOut : strand.CarriesOut directory bound operations failure issued attempts)
    (other : UserKey) : strand ≠ .queued other := by
  cases carriesOut <;> nofun

/-- A strand ends when every operation has been attempted, and it gives an account of them. -/
theorem CarriesOut.of_ended {conclusion : Conclusion}
    (carriesOut : (Strand.ended conclusion).CarriesOut directory bound operations failure issued
      attempts) :
    (attempts.map Attempt.operation).Perm operations ∧
      ∃ user connections,
        conclusion.Gives operations failure ((Report.start user connections).tell attempts) := by
  cases carriesOut with
  | ended user connections all gives => exact ⟨all, user, connections, gives⟩

/-- A run that makes no further pass ends with what its pass has come to. -/
theorem carriesOut_rest (failure : Option LookupError)
    (wanted : operations = work.operations directory found)
    (within : run.pass.underWay.length ≤ bound)
    (carriesOut : run.pass.CarriesOut directory user found work issued attempts questions) :
    (ofRunState failure run.rest).CarriesOut directory bound operations failure issued attempts ∧
      (ofRunState failure run.rest).underWay = run.pass.underWay := by
  cases finished : run.pass.outcome? with
  | none =>
      simp only [Run.rest, finished]
      exact ⟨.running wanted within carriesOut, rfl⟩
  | some outcome =>
      obtain ⟨idle, all, attempted, gives⟩ := carriesOut.gives finished
      simp only [Run.rest, finished, idle]
      rw [all, ← wanted] at attempted gives ⊢
      cases failure with
      | some error => exact ⟨.ended user found.length attempted rfl, rfl⟩
      | none => exact ⟨.ended user found.length attempted (Conclusion.gives_settled gives), rfl⟩

/-- A run begins a pass on the connections live at that moment. -/
theorem carriesOut_begin (failure : Option LookupError)
    (begun : run.pass = (Pass.start board user work).2) :
    (ofRunState failure run.rest).Steady ∧
      (ofRunState failure run.rest).CarriesOut board.directory (atLeastOne board.bound)
        (work.operations board.directory (board.presence.connections user)) failure
        (ofRunState failure run.rest).underWay [] := by
  have steady := Pass.steady_start board user work
  have within := Pass.length_underWay_start_le board user work
  have carriesOut := Pass.carriesOut_start board user work
  rw [← begun] at steady within carriesOut
  obtain ⟨carriesOut, underWay⟩ := carriesOut_rest failure rfl within carriesOut
  rw [underWay]
  refine ⟨steady_ofRunState ?_ failure, carriesOut⟩
  unfold Run.rest
  split
  · exact ⟨steady, ‹_›⟩
  · trivial

/-- An assignment ends when every join has been attempted. -/
theorem carriesOut_joining (connection : Connection) (limited : Bool)
    (within : batch.underWay.length ≤ bound)
    (accounts : batch.Accounts (Report.start user 1) operations issued attempts) :
    (ofAssignment user (.joining connection batch) limited).CarriesOut directory bound operations
      none issued attempts := by
  cases done : batch.isDone with
  | false =>
      simp only [ofAssignment, Assignment.report?, done]
      exact .joining rfl within accounts
  | true =>
      obtain ⟨rfl, all⟩ := accounts.done done
      simp only [ofAssignment, Assignment.report?, done, if_true, accounts.told]
      refine .ended user 1 all (.inl ?_)
      cases limited <;> rfl

/-- Once every channel is decided, an assignment goes on to its joins. -/
theorem carriesOut_settle {evaluation : Evaluation} (user : UserKey) (connection : Connection)
    (limited : Bool) (faithful : evaluation.Faithful board.directory principal) :
    (ofAssignment user (Assignment.settle board (.deciding user connection evaluation))
        limited).CarriesOut board.directory (atLeastOne board.bound)
      (board.directory.joins principal connection) none
      (ofAssignment user (Assignment.settle board (.deciding user connection evaluation))
        limited).underWay [] := by
  cases done : evaluation.isDone with
  | false =>
      simp only [Assignment.settle, done, Bool.false_eq_true, if_false, ofAssignment_deciding,
        underWay_deciding]
      exact .deciding rfl rfl faithful
  | true =>
      simp only [Assignment.settle, done, if_true, faithful.partition_eq done,
        underWay_ofAssignment_joining]
      exact carriesOut_joining connection limited (Batch.length_underWay_start_le _ _ _)
        (Batch.accounts_start _ _ _)

/-- Leaves end when each of them has been attempted. -/
theorem carriesOut_ofLeaves (expired : Bool) (within : batch.underWay.length ≤ bound)
    (accounts : batch.Accounts (Report.start user 1) operations issued attempts) :
    (ofLeaves batch expired).CarriesOut directory bound operations none issued attempts := by
  cases done : batch.isDone with
  | false =>
      simp only [ofLeaves, done]
      exact .leaving rfl within accounts
  | true =>
      obtain ⟨rfl, all⟩ := accounts.done done
      simp only [ofLeaves, done, if_true, accounts.told]
      refine .ended user 1 all (.inl ?_)
      cases expired <;> rfl

theorem carriesOut_leaveAll (board : Switchboard) (user : UserKey) (connection : Connection)
    (expired : Bool) :
    (leaveAll board user connection expired).2.CarriesOut board.directory (atLeastOne board.bound)
      (board.leaveAll connection) none (leaveAll board user connection expired).2.underWay [] := by
  simp only [leaveAll, underWay_ofLeaves]
  exact carriesOut_ofLeaves expired (Batch.length_underWay_start_le _ _ _)
    (Batch.accounts_start _ _ _)

/-- The strand goes on with the answer at a spot, as long as no further pass begins. -/
theorem CarriesOut.perform
    (carriesOut : strand.CarriesOut board.directory (atLeastOne board.bound) operations failure
      issued attempts)
    (passage : Passage) (spot : Spot)
    (last : ∀ run failure, strand = Strand.running run failure →
      run.successor? board passage spot = none) :
    (strand.perform board passage spot).2.CarriesOut board.directory (atLeastOne board.bound)
      operations failure
      (issued ++ issuedBetween strand.underWay (strand.perform board passage spot).2.underWay
        (board.attempt? passage spot (strand.inquiry? spot)))
      (attempts ++ (board.attempt? passage spot (strand.inquiry? spot)).toList) := by
  cases carriesOut with
  | @running issued attempts user found work questions run wanted within carriesOut =>
      let later : Run := { run with pass := (run.pass.perform board passage spot).2 }
      have next : ((Strand.running run failure).perform board passage spot).2 =
          ofRunState failure later.rest :=
        congrArg (ofRunState failure) (Run.advance_of_last (last run failure rfl))
      have within : later.pass.underWay.length ≤ atLeastOne board.bound :=
        Pass.length_underWay_perform_le within passage spot
      obtain ⟨performed, underWay⟩ :=
        carriesOut_rest failure wanted within (carriesOut.perform passage spot)
      rw [next, underWay]
      exact performed
  | @deciding user principal connection evaluation limited unfailed wanted faithful =>
      subst unfailed wanted
      cases spot with
      | question channel =>
          simpa [Strand.perform, Assignment.perform, Switchboard.attempt?] using
            carriesOut_settle user connection limited (faithful.ask channel)
      | _ =>
          simpa [Strand.perform, Assignment.perform, Strand.inquiry?, Assignment.inquiry?] using
            CarriesOut.deciding rfl rfl faithful
  | @joining issued attempts user connection batch limited unfailed within accounts =>
      subst unfailed
      cases spot with
      | operation operation =>
          rw [underWay_joining]
          simp only [Strand.perform, Assignment.perform, underWay_ofAssignment_joining]
          exact carriesOut_joining connection limited
            ((batch.length_underWay_perform_le board passage operation).trans within)
            (accounts.perform board passage operation)
      | _ =>
          simpa [Strand.perform, Assignment.perform, Strand.inquiry?, Assignment.inquiry?] using
            carriesOut_joining connection limited within accounts
  | @leaving issued attempts user batch expired unfailed within accounts =>
      subst unfailed
      cases spot with
      | operation operation =>
          rw [underWay_leaving]
          simp only [Strand.perform, underWay_ofLeaves]
          exact carriesOut_ofLeaves expired
            ((batch.length_underWay_perform_le board passage operation).trans within)
            (accounts.perform board passage operation)
      | _ => simpa [Strand.perform, Strand.inquiry?] using CarriesOut.leaving rfl within accounts
  | ended user connections all gives =>
      simpa [Strand.perform, Strand.inquiry?] using CarriesOut.ended user connections all gives
  | dropped inOrder => simpa [Strand.perform, Strand.inquiry?] using CarriesOut.dropped inOrder

/-- When a run goes on with parked work, its pass has given an account of all its operations. -/
theorem CarriesOut.of_successor? {failure' : Option LookupError} {more : Work}
    (carriesOut : (Strand.running run failure').CarriesOut board.directory bound operations failure
      issued attempts)
    {passage : Passage} {spot : Spot} (parked : run.successor? board passage spot = some more) :
    ∃ outcome user connections,
      (run.pass.perform board passage spot).2.outcome? = some outcome ∧
      ((attempts ++ (board.attempt? passage spot (run.pass.inquiry? spot)).toList).map
        Attempt.operation).Perm operations ∧
      outcome.Gives operations ((Report.start user connections).tell
        (attempts ++ (board.attempt? passage spot (run.pass.inquiry? spot)).toList)) := by
  obtain ⟨outcome, finished⟩ :=
    Option.isSome_iff_exists.1 (Run.isSome_outcome?_of_successor? parked)
  cases carriesOut with
  | @running _ _ user found work _ _ wanted within carriesOut =>
      obtain ⟨-, all, attempted, gives⟩ := (carriesOut.perform passage spot).gives finished
      rw [all, ← wanted] at attempted gives
      exact ⟨outcome, user, found.length, finished, attempted, gives⟩

end Strand

/-- A pass begins on a strand at a moment: the operations that it is to issue, and the failed look-up
that called for it. -/
inductive Moment.Opens (opening : Moment) : Nat → List Operation → Option LookupError → Prop
  /-- A connection is set up. -/
  | setup {principal : Principal} {user : UserKey} {connection : Connection}
    (event : opening.event = .submit (.connect principal connection))
    (known : principal.user = some user) :
    Opens opening opening.system.strands.length
      (opening.system.board.directory.joins principal connection) none
  /-- A connection is assigned its channels. -/
  | assignment {principal : Principal} {user : UserKey} {connection : Connection}
    (event : opening.event = .submit (.assign principal connection))
    (known : principal.user = some user) :
    Opens opening opening.system.strands.length
      (opening.system.board.directory.joins principal connection) none
  /-- Work enters an idle slot. -/
  | entry {arrival : Arrival} (arrived : opening.arrival? = some arrival)
    (opens : arrival.opens = true) :
    Opens opening arrival.strand
      (arrival.work.operations opening.system.board.directory
        (opening.system.board.presence.connections arrival.user))
      arrival.failure
  /-- A run whose pass is over goes on with parked work. -/
  | further {position : Nat} {run : Run} {failure : Option LookupError} {work : Work}
    (present : opening.system.strands[position]? = some (.running run failure))
    (more : opening.rerun? position = some work) :
    Opens opening position
      (work.operations opening.system.board.directory
        (opening.system.board.presence.connections run.ticket.user))
      failure
  /-- The setup of a connection runs out of time. -/
  | expiry {position : Nat} {user : UserKey} {assignment : Assignment}
    (event : opening.event = .expire position)
    (present : opening.system.strands[position]? = some (.assigning user assignment true)) :
    Opens opening position (opening.system.board.leaveAll assignment.connection) none
  /-- A connection is asked to leave every known channel. -/
  | departure {user : UserKey} {connection : Connection}
    (event : opening.event = .submit (.revokeConnection user connection)) :
    Opens opening opening.system.strands.length (opening.system.board.leaveAll connection) none

/-- A pass that begins at a moment is the last one that its strand makes in some events. -/
structure Moment.LastPass (opening : Moment) (position : Nat) (operations : List Operation)
    (failure : Option LookupError) (rest : List Event) : Prop where
  /-- The pass begins. -/
  opens : opening.Opens position operations failure
  /-- No other pass begins afterwards. -/
  single : ∀ moment ∈ opening.next.moments rest, ∀ operations failure,
    ¬moment.Opens position operations failure

section Course

variable {opening moment : Moment} {position : Nat} {operations issued : List Operation}
  {failure : Option LookupError} {attempts : List Attempt} {strand : Strand} {work : Work}
  {rest : List Event}

/-- A run that goes on with parked work does so at an answer to its present pass. -/
theorem Moment.answer_of_rerun? (more : moment.rerun? position = some work) :
    ∃ spot passage run failure, moment.event = .perform position spot passage ∧
      moment.system.strands[position]? = some (.running run failure) ∧
        run.successor? moment.system.board passage spot = some work := by
  unfold rerun? at more
  split at more
  · rename_i other spot passage run failure event present
    split at more
    · rename_i here
      exact ⟨spot, passage, run, failure, here ▸ event, present, more⟩
    · cases more
  · cases more

/-- An answer that neither the account store gives nor the end of a pass follows begins no pass. -/
theorem Moment.not_opens_of_perform {spot : Spot} {passage : Passage}
    (event : moment.event = .perform position spot passage) (asked : spot ≠ .account)
    (last : moment.rerun? position = none) : ¬moment.Opens position operations failure := by
  intro opens
  cases opens with
  | entry arrived opens =>
      simp only [arrival?, event] at arrived
      split at arrived <;> simp_all
  | further present more => cases last.symm.trans more
  | _ => simp_all

/-- If nothing but answers of guards and of the transport comes in and the run makes no further pass, no
other pass begins. -/
theorem System.not_opens_of_answers {system : System}
    (answers : ∀ event ∈ rest, ∃ spot passage, spot ≠ .account ∧
      event = .perform position spot passage)
    (last : ∀ moment ∈ system.moments rest, moment.rerun? position = none) :
    ∀ moment ∈ system.moments rest, ∀ operations failure,
      ¬moment.Opens position operations failure := by
  intro moment member operations failure
  obtain ⟨spot, passage, asked, event⟩ := answers _ (event_mem_of_moments member)
  exact Moment.not_opens_of_perform event asked (last moment member)

/-- No two operations of a pass decide about the same membership. -/
theorem Moment.Opens.distinct (opens : opening.Opens position operations failure) :
    (operations.map Operation.pair).Nodup := by
  have registered := opening.system.board.presence.nodup_connections
  cases opens with
  | setup event known => exact Directory.nodup_joins _ _ _
  | assignment event known => exact Directory.nodup_joins _ _ _
  | entry arrived opens => exact Work.nodup_operations _ (registered _)
  | further present more => exact Work.nodup_operations _ (registered _)
  | expiry event present =>
      rw [← Work.operations_revoke_singleton]
      exact Work.revoke.nodup_operations (List.nodup_singleton _)
  | departure event =>
      rw [← Work.operations_revoke_singleton]
      exact Work.revoke.nodup_operations (List.nodup_singleton _)

/-- A pass begins in good order, with nothing attempted yet. -/
theorem Moment.Opens.begins (opens : opening.Opens position operations failure) :
    ∃ strand, opening.next.strands[position]? = some strand ∧ strand.Steady ∧
      strand.CarriesOut opening.system.board.directory (atLeastOne opening.system.board.bound)
        operations failure strand.underWay [] := by
  cases opens with
  | @setup principal user connection event known =>
      obtain ⟨present, -⟩ := connect_step opening.system connection known
      refine ⟨_, by rw [Moment.next, event]; exact present,
        .assigning user true (Assignment.steady_start _ _ _ _), ?_⟩
      exact Strand.carriesOut_settle user connection true (Evaluation.faithful_start _ principal)
  | @assignment principal user connection event known =>
      refine ⟨Strand.ofAssignment user
          (Assignment.start opening.system.board user principal connection).2 false, ?_,
        .assigning user false (Assignment.steady_start _ _ _ _),
        Strand.carriesOut_settle user connection false (Evaluation.faithful_start _ principal)⟩
      simp [Moment.next, event, System.step, System.submit, Request.begin, known]
  | @entry arrival arrived opens =>
      have idle : opening.system.board.slots.slot arrival.user = .idle := by
        rw [Moment.opens_of_arrival? arrived] at opens
        exact of_decide_eq_true opens
      obtain ⟨run, taken, started, last, begun⟩ := Run.start_of_idle arrival.work idle
      have present := (Moment.arrives_of_arrival? arrived).strand
      rw [started, Run.advance_of_last last] at present
      have begins := Strand.carriesOut_begin arrival.failure begun
      exact ⟨_, present, begins⟩
  | @further _ run failure work present more =>
      obtain ⟨spot, passage, run', failure', event, present', more⟩ :=
        Moment.answer_of_rerun? more
      cases present.symm.trans present'
      obtain ⟨again, taken, same, -, begun, directory, presence, limits⟩ :=
        Run.advance_of_more more
      rw [Pass.perform_board] at directory presence limits
      have next : opening.next.strands[position]? = some (Strand.ofRunState failure again.rest) := by
        rw [Moment.next_of_perform event present, ← same]
        exact List.getElem?_set_self (List.getElem?_eq_some_iff.1 present).1
      have begins := Strand.carriesOut_begin failure begun
      rw [Switchboard.bound, directory, presence, limits] at begins
      exact ⟨_, next, begins⟩
  | @expiry _ user assignment event present =>
      refine ⟨_, ?_, Strand.steady_leaveAll opening.system.board user assignment.connection true,
        Strand.carriesOut_leaveAll opening.system.board user assignment.connection true⟩
      rw [Moment.next_of_expire event present]
      exact List.getElem?_set_self (List.getElem?_eq_some_iff.1 present).1
  | @departure user connection event =>
      refine ⟨_, ?_, Strand.steady_leaveAll opening.system.board user connection false,
        Strand.carriesOut_leaveAll opening.system.board user connection false⟩
      rw [Moment.next, event]
      exact List.getElem?_concat_length

/-- Until a further pass begins, a strand goes on with its pass, whatever else happens. -/
theorem Strand.CarriesOut.next (moment : Moment)
    (carriesOut : strand.CarriesOut moment.system.board.directory
      (atLeastOne moment.system.board.bound) operations failure issued attempts)
    (present : moment.system.strands[position]? = some strand)
    (single : ∀ operations failure, ¬moment.Opens position operations failure) :
    ∃ after, moment.next.strands[position]? = some after ∧
      after.CarriesOut moment.system.board.directory (atLeastOne moment.system.board.bound)
        operations failure (issued ++ moment.issues position)
        (attempts ++ (moment.attemptOf? position).toList) := by
  have stays (same : moment.next.strands[position]? = some strand)
      (unattempted : moment.attemptOf? position = none) :
      ∃ after, moment.next.strands[position]? = some after ∧
        after.CarriesOut moment.system.board.directory (atLeastOne moment.system.board.bound)
          operations failure (issued ++ moment.issues position)
          (attempts ++ (moment.attemptOf? position).toList) := by
    refine ⟨strand, same, ?_⟩
    simpa [Moment.issues_eq_nil present same unattempted, unattempted] using carriesOut
  cases moment.turn present carriesOut.ne_queued with
  | stays strand_eq elsewhere => exact stays strand_eq (Moment.attemptOf?_eq_none elsewhere)
  | answers spot passage event strand_eq board_eq =>
      refine ⟨_, strand_eq, ?_⟩
      rw [Moment.issues_eq present strand_eq, Moment.attemptOf?_of_perform event present]
      refine carriesOut.perform passage spot fun run failure running => ?_
      subst running
      have last : moment.rerun? position = none :=
        Option.eq_none_iff_forall_ne_some.2 fun work more => single _ _ (.further present more)
      simpa [Moment.rerun?, event, present] using last
  | expires event strand_eq board_eq =>
      have unattempted : moment.attemptOf? position = none :=
        Moment.attemptOf?_eq_none (by simp [event])
      have untimed (user : UserKey) (assignment : Assignment) :
          strand ≠ .assigning user assignment true := by
        rintro rfl
        exact single _ _ (.expiry event present)
      have same : (strand.expire moment.system.board).2 = strand := by
        unfold Strand.expire
        split
        · exact absurd rfl (untimed _ _)
        · rfl
      exact stays (same ▸ strand_eq) unattempted
  | abandoned kept event strand_eq =>
      have unattempted : moment.attemptOf? position = none :=
        Moment.attemptOf?_eq_none (by simp [event])
      by_cases finished : ∃ conclusion, strand = .ended conclusion
      · obtain ⟨conclusion, rfl⟩ := finished
        exact stays strand_eq unattempted
      · have given : (strand.abandon moment.system.board).2.1 = .dropped := by
          cases strand with
          | ended conclusion => exact absurd ⟨conclusion, rfl⟩ finished
          | _ => rfl
        rw [given] at strand_eq
        refine ⟨.dropped, strand_eq, ?_⟩
        rw [Moment.issues_eq present strand_eq, unattempted, Strand.underWay_dropped,
          issuedBetween_to_nil, Option.toList_none, List.append_nil, List.append_nil]
        exact .dropped carriesOut.inOrder

/-- The last pass of a strand goes on, in good order, whatever else happens. -/
theorem Moment.LastPass.course (pass : opening.LastPass position operations failure rest) :
    ∃ strand, (opening.next.run rest).strands[position]? = some strand ∧ strand.Steady ∧
      strand.CarriesOut opening.system.board.directory (atLeastOne opening.system.board.bound)
        operations failure
        (opening.next.underWay position ++ issuedBy position (opening.next.moments rest))
        (attemptsOf position (opening.next.moments rest)) := by
  obtain ⟨opens, single⟩ := pass
  obtain ⟨strand, present, good, begins⟩ := opens.begins
  induction rest using List.reverseRecOn with
  | nil =>
      refine ⟨strand, present, good, ?_⟩
      simpa [System.moments, issuedBy, attemptsOf, System.underWay, present] using begins
  | append_singleton events event induction =>
      rw [System.moments_concat] at single ⊢
      obtain ⟨strand, present, steady, carriesOut⟩ :=
        induction fun moment member => single moment (List.mem_append_left _ member)
      let moment : Moment := ⟨opening.next.run events, event⟩
      have directory : moment.system.board.directory = opening.system.board.directory :=
        (opening.next.run_directory events).trans opening.directory_next
      have bound : moment.system.board.bound = opening.system.board.bound :=
        (opening.next.run_bound events).trans (opening.system.step_bound opening.event)
      rw [System.run_concat, issuedBy_concat, attemptsOf_concat, ← List.append_assoc]
      rw [← directory, ← bound] at carriesOut ⊢
      obtain ⟨after, present', good⟩ := steady.next moment present
      obtain ⟨after', present'', later⟩ := carriesOut.next moment present
        (single _ (List.mem_append_right _ List.mem_cons_self))
      cases present'.symm.trans present''
      exact ⟨after, present', good, later⟩

end Course
end ChannelMembership
