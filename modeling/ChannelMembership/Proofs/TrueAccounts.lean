import ChannelMembership.Proofs.Switchboard.Course

/-!
# Reports are true accounts

One assignment, refresh or revocation never issues two operations about the same membership.  So it
makes no difference how many of them are under way at once and in which order they come to their end:
the report with which the strand ends tells what became of each, and the memberships afterwards can be
read off the report.
-/

namespace ChannelMembership

/-- A report is a true account of what a list of operations, attempted in some order, has made of the
groups. -/
structure Report.TrueAccount (operations : List Operation) (attempts : List Attempt)
    (before after : Groups) (report : Report) : Prop
    extends report.Tells attempts where
  /-- Every operation is attempted exactly once. -/
  attempted : operations.Nodup ∧ (attempts.map Attempt.operation).Perm operations
  /-- Every operation is listed exactly once. -/
  recorded : report.recorded.Nodup ∧ report.recorded.Perm operations
  /-- Where an operation was carried out, the connection is a member if it was a join. -/
  applied : ∀ operation ∈ report.applied,
    after.isMember operation.channel operation.connection = operation.isJoin
  /-- Where an operation failed, the membership is as before. -/
  failed : ∀ failure ∈ report.failures,
    after.isMember failure.1.channel failure.1.connection =
      before.isMember failure.1.channel failure.1.connection
  /-- Where there was no operation, the membership is as before. -/
  untouched : ∀ connection channel, (connection, channel) ∉ operations.map Operation.pair →
    after.isMember channel connection = before.isMember channel connection

/-- When a list of operations has been attempted, each once and no two about the same membership, the
report of a batch that told the attempts is a true account. -/
theorem Report.trueAccount_tell {operations : List Operation} {attempts : List Attempt}
    (distinct : (operations.map Operation.pair).Nodup)
    (all : (attempts.map Attempt.operation).Perm operations) {before after : Groups}
    (settled : ∀ connection channel,
      after.isMember channel connection = (before.afterAll attempts).isMember channel connection)
    (user : UserKey) (connections : Nat) :
    ((Report.start user connections).tell attempts).TrueAccount operations attempts before
      after := by
  have each : (attempts.map fun attempt => attempt.operation.pair).Nodup := by
    have pairs := (all.map Operation.pair).nodup_iff.2 distinct
    rwa [List.map_map] at pairs
  have once : operations.Nodup := .of_map _ distinct
  have recorded := (covers_tell all user connections).recorded_perm
  refine ⟨tells_tell user connections attempts, ⟨once, all⟩,
    ⟨recorded.nodup_iff.2 once, recorded⟩, fun operation applied => ?_, fun failure failed => ?_,
    fun connection channel absent => ?_⟩
  · rw [(tells_tell user connections attempts).applied_eq, Attempt.mem_accepted] at applied
    rw [settled, before.isMember_afterAll_of_mem each applied, Groups.isMember_after_self]
  · obtain ⟨operation, error⟩ := failure
    rw [(tells_tell user connections attempts).failures_eq, Attempt.mem_rejected] at failed
    exact (settled _ _).trans (before.isMember_afterAll_of_mem each failed)
  · refine (settled _ _).trans (before.isMember_afterAll_of_absent fun present => absent ?_)
    have listed := (all.map Operation.pair).subset
    rw [List.map_map] at listed
    exact listed present

namespace Report.TrueAccount

variable {operations operations' : List Operation} {attempts attempts' : List Attempt}
  {before before' after after' : Groups} {report report' : Report}

/-- Where nothing was carried out, the membership is as before. -/
theorem kept (account : report.TrueAccount operations attempts before after)
    {connection : Connection} {channel : Channel}
    (missed : ∀ operation ∈ report.applied, operation.pair ≠ (connection, channel)) :
    after.isMember channel connection = before.isMember channel connection := by
  by_cases concerned : (connection, channel) ∈ operations.map Operation.pair
  · obtain ⟨operation, member, here⟩ := List.mem_map.1 concerned
    rcases List.mem_append.1 (account.recorded.2.symm.subset member) with applied | failed
    · exact absurd here (missed operation applied)
    · obtain ⟨failure, among, rfl⟩ := List.mem_map.1 failed
      obtain ⟨rfl, rfl⟩ : failure.1.connection = connection ∧ failure.1.channel = channel :=
        Prod.mk.injEq .. ▸ here
      exact account.failed _ among
  · exact account.untouched _ _ concerned

/-- Two true accounts with the same operations carried out from the same memberships lead to the same
memberships. -/
theorem same_after (account : report.TrueAccount operations attempts before after)
    (account' : report'.TrueAccount operations' attempts' before' after')
    (same : ∀ connection channel,
      before.isMember channel connection = before'.isMember channel connection)
    (agree : ∀ operation, operation ∈ report.applied ↔ operation ∈ report'.applied)
    (connection : Connection) (channel : Channel) :
    after.isMember channel connection = after'.isMember channel connection := by
  by_cases carried : ∃ operation ∈ report.applied, operation.pair = (connection, channel)
  · obtain ⟨operation, applied, here⟩ := carried
    obtain ⟨rfl, rfl⟩ : operation.connection = connection ∧ operation.channel = channel :=
      Prod.mk.injEq .. ▸ here
    rw [account.applied _ applied, account'.applied _ ((agree operation).1 applied)]
  · have missed : ∀ operation ∈ report.applied, operation.pair ≠ (connection, channel) :=
      fun operation applied here => carried ⟨operation, applied, here⟩
    rw [account.kept missed, same,
      account'.kept fun operation applied => missed operation ((agree operation).2 applied)]

end Report.TrueAccount

/-- A strand has ended with a report. -/
def System.GivesReport (system : System) (position : Nat) (report : Report) : Prop :=
  ∃ conclusion, system.strands[position]? = some (.ended conclusion) ∧
    conclusion.report? = some report

/-- Nobody but the strand of a pass touches a membership after the pass has begun. -/
def Moment.Undisturbed (opening : Moment) (position : Nat) (rest : List Event) : Prop :=
  ∀ connection, TouchedOnlyBy position connection (opening.next.moments rest)

/-- What becomes of a pass that begins at a moment and is followed by some events. -/
structure Moment.Accounts (opening : Moment) (position : Nat) (operations : List Operation)
    (failure : Option LookupError) (rest : List Event) : Prop where
  /-- No two operations of the pass decide about the same membership. -/
  distinct : (operations.map Operation.pair).Nodup
  /-- They are issued in order, and each is attempted at most once. -/
  inOrder : InOrder operations
    (opening.next.underWay position ++ issuedBy position (opening.next.moments rest))
    (attemptsOf position (opening.next.moments rest))
  /-- No more of them are under way than may be; a bound of zero counts as one. -/
  bounded : ((opening.next.run rest).underWay position).length ≤
    atLeastOne opening.system.board.bound
  /-- What was issued has been attempted or is under way, unless the strand was given up. -/
  answered : (opening.next.run rest).strands[position]? ≠ some .dropped →
    ((attemptsOf position (opening.next.moments rest)).map Attempt.operation ++
      (opening.next.run rest).underWay position).Perm
        (opening.next.underWay position ++ issuedBy position (opening.next.moments rest))
  /-- When the strand has ended, the report with which it ended is a true account of what became of the
  operations; if the pass was called for by a failed look-up, the error is reported instead. -/
  account : opening.Undisturbed position rest → ∀ conclusion,
    (opening.next.run rest).strands[position]? = some (.ended conclusion) →
      ∃ report, conclusion.Gives operations failure report ∧
        report.TrueAccount operations (attemptsOf position (opening.next.moments rest))
          opening.next.board.groups (opening.next.run rest).board.groups
  /-- When a run goes on with parked work at the next answer, its pass has come to such an account,
  too. -/
  handedOn : ∀ spot passage run failure' work,
    (opening.next.run rest).strands[position]? = some (.running run failure') →
    run.successor? (opening.next.run rest).board passage spot = some work →
    opening.Undisturbed position (rest ++ [.perform position spot passage]) →
      ∃ outcome report,
        (run.pass.perform (opening.next.run rest).board passage spot).2.outcome? = some outcome ∧
        outcome.Gives operations report ∧
        report.TrueAccount operations
          (attemptsOf position (opening.next.moments (rest ++ [.perform position spot passage])))
          opening.next.board.groups
          (opening.next.run (rest ++ [.perform position spot passage])).board.groups
  /-- The strand can always be brought to its end. -/
  finishes : ∃ answers, (∀ event ∈ answers, event.Advances position) ∧
    ((opening.next.run rest).run answers).Finished position

section Account

variable {opening : Moment} {position : Nat} {operations : List Operation}
  {failure : Option LookupError} {rest : List Event}

theorem Moment.LastPass.accounts (pass : opening.LastPass position operations failure rest) :
    opening.Accounts position operations failure rest := by
  obtain ⟨strand, present, steady, carriesOut⟩ := pass.course
  have underWay : (opening.next.run rest).underWay position = strand.underWay := by
    rw [System.underWay, present, Option.elim_some]
  refine ⟨pass.opens.distinct, carriesOut.inOrder, ?_, fun kept => ?_,
    fun undisturbed conclusion ended => ?_,
    fun spot passage run failure' work running parked undisturbed => ?_, ?_⟩
  · rw [underWay]
    exact carriesOut.length_underWay_le
  · rw [underWay]
    exact carriesOut.answered fun dropped => kept (dropped ▸ present)
  · cases present.symm.trans ended
    obtain ⟨all, user, connections, gives⟩ := carriesOut.of_ended
    exact ⟨_, gives, Report.trueAccount_tell pass.opens.distinct all
      (fun connection channel => (undisturbed connection).isMember_run channel) user connections⟩
  · cases present.symm.trans running
    have directory : (opening.next.run rest).board.directory = opening.system.board.directory :=
      (opening.next.run_directory rest).trans opening.directory_next
    rw [← directory] at carriesOut
    obtain ⟨outcome, user, connections, finished, all, gives⟩ := carriesOut.of_successor? parked
    have attempts : attemptsOf position
        (opening.next.moments (rest ++ [.perform position spot passage])) =
          attemptsOf position (opening.next.moments rest) ++
            ((opening.next.run rest).board.attempt? passage spot
              (run.pass.inquiry? spot)).toList := by
      rw [System.moments_concat, attemptsOf_concat, Moment.attemptOf?_of_perform rfl present]
      rfl
    rw [← attempts] at all gives
    exact ⟨outcome, _, finished, gives, Report.trueAccount_tell pass.opens.distinct all
      (fun connection channel => (undisturbed connection).isMember_run channel) user connections⟩
  · exact System.exists_finished present steady

/-- A strand that ends with a report has given a true account of its last pass. -/
theorem Moment.Accounts.trueAccount (accounts : opening.Accounts position operations failure rest)
    (undisturbed : opening.Undisturbed position rest) {report : Report}
    (reports : (opening.next.run rest).GivesReport position report) :
    report.TrueAccount operations (attemptsOf position (opening.next.moments rest))
      opening.next.board.groups (opening.next.run rest).board.groups := by
  obtain ⟨conclusion, ended, told⟩ := reports
  obtain ⟨given, gives, account⟩ := accounts.account undisturbed conclusion ended
  rwa [gives.report_eq told]

/-- However many operations of an assignment, a refresh or a revocation are under way at once, in
whatever order they come to their end, and whichever of them fail: the report is a true account.  So
the memberships depend on which operations were carried out, and on nothing else. -/
theorem reports_are_true_accounts (pass : opening.LastPass position operations failure rest) :
    opening.Accounts position operations failure rest ∧
      ∀ {other : Moment} {position' : Nat} {operations' : List Operation}
        {failure' : Option LookupError} {rest' : List Event},
        other.LastPass position' operations' failure' rest' →
        opening.Undisturbed position rest → other.Undisturbed position' rest' →
        ∀ {report report' : Report}, (opening.next.run rest).GivesReport position report →
          (other.next.run rest').GivesReport position' report' →
          (∀ connection channel, opening.next.board.groups.isMember channel connection =
            other.next.board.groups.isMember channel connection) →
          (∀ operation, operation ∈ report.applied ↔ operation ∈ report'.applied) →
            ∀ connection channel,
              (opening.next.run rest).board.groups.isMember channel connection =
                (other.next.run rest').board.groups.isMember channel connection := by
  refine ⟨pass.accounts, ?_⟩
  intro other position' operations' failure' rest' pass' undisturbed undisturbed' report report'
    reports reports'
  exact (pass.accounts.trueAccount undisturbed reports).same_after
    (pass'.accounts.trueAccount undisturbed' reports')

end Account

/-- The newsroom with two connections of an editor, and a bound on how many operations are under way at
once. -/
def boundedNewsroom (bound : Fin wordBound) : System :=
  (System.initial (Switchboard.initial newsroom { Limits.standard with callsUnderWay := bound }
    Link.clear)).run [.register firstUser ⟨"c1"⟩, .register firstUser ⟨"c2"⟩]

/-- The editor is refreshed. -/
def boundedRefresh (bound : Fin wordBound) : Moment :=
  ⟨boundedNewsroom bound, .submit (.refresh editor)⟩

/-- Both joins are under way at once; the second one is carried out, and then the first one fails. -/
def joinsTogether : List Event :=
  [.perform 0 (.question ⟨"news"⟩) .through,
    .perform 0 (.operation (.join ⟨"c2"⟩ ⟨"news"⟩)) .through,
    .perform 0 (.operation (.join ⟨"c1"⟩ ⟨"news"⟩)) (.blocked (.failed "lost"))]

/-- The first join fails, and only then the second one is issued. -/
def joinsInTurn : List Event :=
  [.perform 0 (.question ⟨"news"⟩) .through,
    .perform 0 (.operation (.join ⟨"c1"⟩ ⟨"news"⟩)) (.blocked (.failed "lost")),
    .perform 0 (.operation (.join ⟨"c2"⟩ ⟨"news"⟩)) .through]

theorem lost_join_is_told_in_newsroom :
    ∃ report,
      ((boundedRefresh 2).next.run (joinsTogether.take 1)).underWay 0 =
        [.join ⟨"c1"⟩ ⟨"news"⟩, .join ⟨"c2"⟩ ⟨"news"⟩] ∧
      ((boundedRefresh 0).next.run (joinsInTurn.take 1)).underWay 0 =
        [.join ⟨"c1"⟩ ⟨"news"⟩] ∧
      ((boundedRefresh 2).next.run joinsTogether).GivesReport 0 report ∧
      ((boundedRefresh 0).next.run joinsInTurn).GivesReport 0 report ∧
      report.failures = [(.join ⟨"c1"⟩ ⟨"news"⟩, .failed "lost")] ∧
      report.TrueAccount [.join ⟨"c1"⟩ ⟨"news"⟩, .join ⟨"c2"⟩ ⟨"news"⟩]
        (attemptsOf 0 ((boundedRefresh 2).next.moments joinsTogether))
        (boundedRefresh 2).next.board.groups
        ((boundedRefresh 2).next.run joinsTogether).board.groups ∧
      ∀ connection channel,
        ((boundedRefresh 2).next.run joinsTogether).board.groups.isMember channel connection =
          ((boundedRefresh 0).next.run joinsInTurn).board.groups.isMember channel connection := by
  have opens (bound : Fin wordBound)
      (arrived : (boundedRefresh bound).arrival? =
        some ⟨firstUser, .reconcile editor, none, 0, false, true⟩)
      (wanted : (Work.reconcile editor).operations (boundedRefresh bound).system.board.directory
        ((boundedRefresh bound).system.board.presence.connections firstUser) =
          [.join ⟨"c1"⟩ ⟨"news"⟩, .join ⟨"c2"⟩ ⟨"news"⟩]) :
      (boundedRefresh bound).Opens 0 [.join ⟨"c1"⟩ ⟨"news"⟩, .join ⟨"c2"⟩ ⟨"news"⟩] none :=
    wanted ▸ .entry arrived rfl
  have together : (boundedRefresh 2).LastPass 0 _ none joinsTogether :=
    ⟨opens 2 (by decide +kernel) (by decide +kernel),
      System.not_opens_of_answers (by simp [joinsTogether]) (by decide +kernel)⟩
  have inTurn : (boundedRefresh 0).LastPass 0 _ none joinsInTurn :=
    ⟨opens 0 (by decide +kernel) (by decide +kernel),
      System.not_opens_of_answers (by simp [joinsInTurn]) (by decide +kernel)⟩
  have mine : ∀ found ∈ ((boundedRefresh 2).next.moments joinsTogether).filterMap
      Moment.attempt?, found.1 = 0 := by decide +kernel
  have mine' : ∀ found ∈ ((boundedRefresh 0).next.moments joinsInTurn).filterMap
      Moment.attempt?, found.1 = 0 := by decide +kernel
  have undisturbed : (boundedRefresh 2).Undisturbed 0 joinsTogether := fun _ =>
    touchedOnlyBy_of_attempts (by simp [joinsTogether]) fun found member _ => mine found member
  have undisturbed' : (boundedRefresh 0).Undisturbed 0 joinsInTurn := fun _ =>
    touchedOnlyBy_of_attempts (by simp [joinsInTurn]) fun found member _ => mine' found member
  obtain ⟨accounts, independent⟩ := reports_are_true_accounts together
  have reports : ((boundedRefresh 2).next.run joinsTogether).GivesReport 0
      ⟨some firstUser, 2, [.join ⟨"c2"⟩ ⟨"news"⟩], [(.join ⟨"c1"⟩ ⟨"news"⟩, .failed "lost")]⟩ :=
    ⟨_, rfl, rfl⟩
  have reports' : ((boundedRefresh 0).next.run joinsInTurn).GivesReport 0
      ⟨some firstUser, 2, [.join ⟨"c2"⟩ ⟨"news"⟩], [(.join ⟨"c1"⟩ ⟨"news"⟩, .failed "lost")]⟩ :=
    ⟨_, rfl, rfl⟩
  exact ⟨_, by decide +kernel, by decide +kernel, reports, reports', rfl,
    accounts.trueAccount undisturbed reports,
    independent inTurn undisturbed undisturbed' reports reports' (fun _ _ => rfl) fun _ => .rfl⟩

end ChannelMembership
