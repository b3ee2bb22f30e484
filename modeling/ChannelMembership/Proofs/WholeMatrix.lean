import ChannelMembership.Proofs.Membership.Questioning
import ChannelMembership.Proofs.Switchboard.Dispatch

/-!
# A refresh covers the whole matrix

A pass that reconciles a user authorises the principal once, whatever the number of connections.  Then it
issues one operation for every connection that it found and every known channel, and no failure keeps
it from issuing the rest.
-/

namespace ChannelMembership

namespace Pass

/-- How far a pass has come that reconciles connections with a principal: what it has issued and
attempted, and the questions that have been answered. -/
inductive Reconciles (directory : Directory) (user : UserKey) (principal : Principal)
    (found : List Connection) :
    List Operation → List Attempt → List (Guard × Channel) → Pass → Prop
  /-- There is no connection to reconcile. -/
  | skipped (nobody : found = []) :
    Reconciles directory user principal found [] [] [] skipped
  /-- The principal is being authorised. -/
  | deciding {evaluation : Evaluation} {questions : List (Guard × Channel)}
    (faithful : evaluation.Faithful directory principal)
    (ahead : (questions ++ evaluation.ahead).Perm (directory.questions principal)) :
    Reconciles directory user principal found [] [] questions (deciding user found evaluation)
  /-- The operations are being carried out. -/
  | reconciling {batch : Batch} {issued : List Operation} {attempts : List Attempt}
    {questions : List (Guard × Channel)} (asked : questions.Perm (directory.questions principal))
    (accounts : batch.Accounts (Report.start user found.length)
      ((Work.reconcile principal).operations directory found) issued attempts) :
    Reconciles directory user principal found issued attempts questions (reconciling batch)

variable {directory : Directory} {user : UserKey} {principal : Principal}
  {found : List Connection} {issued : List Operation} {attempts : List Attempt}
  {questions : List (Guard × Channel)} {pass : Pass}

/-- A pass goes on to its operations once every channel is decided. -/
theorem reconciles_settle {board : Switchboard} (user : UserKey) (found : List Connection)
    {evaluation : Evaluation}
    (faithful : evaluation.Faithful board.directory principal)
    (ahead : (questions ++ evaluation.ahead).Perm (board.directory.questions principal)) :
    (settle board (deciding user found evaluation)).Reconciles board.directory user principal found
      (settle board (deciding user found evaluation)).underWay [] questions := by
  cases done : evaluation.isDone with
  | false =>
      simp only [settle, done, Bool.false_eq_true, if_false, underWay_deciding]
      exact .deciding faithful ahead
  | true =>
      simp only [settle, done, if_true, faithful.partition_eq done, underWay_reconciling]
      rw [Evaluation.ahead_of_isDone done, List.append_nil] at ahead
      exact .reconciling ahead (Batch.accounts_start _ _ _)

/-- A pass begins to reconcile the connections that are live at that moment. -/
theorem reconciles_start (board : Switchboard) (user : UserKey) (principal : Principal) :
    (start board user (.reconcile principal)).2.Reconciles board.directory user principal
      (board.presence.connections user) (start board user (.reconcile principal)).2.underWay []
      [] := by
  cases found : board.presence.connections user with
  | nil =>
      simp only [start, found, List.isEmpty_nil, if_true, underWay_skipped]
      exact .skipped rfl
  | cons first rest =>
      simp only [start, found, List.isEmpty_cons, Bool.false_eq_true, if_false]
      refine reconciles_settle _ _ (Evaluation.faithful_start board.directory principal) ?_
      rw [Evaluation.ahead_start, List.nil_append]

/-- A pass goes on with the answer at a spot. -/
theorem Reconciles.perform {board : Switchboard}
    (reconciles : pass.Reconciles board.directory user principal found issued attempts questions)
    (passage : Passage) (spot : Spot) :
    (pass.perform board passage spot).2.Reconciles board.directory user principal found
      (issued ++ issuedBetween pass.underWay (pass.perform board passage spot).2.underWay
        (board.attempt? passage spot (pass.inquiry? spot)))
      (attempts ++ (board.attempt? passage spot (pass.inquiry? spot)).toList)
      (questions ++ ((pass.inquiry? spot).bind Inquiry.question?).toList) := by
  cases reconciles with
  | skipped nobody =>
      simpa [Pass.perform, inquiry?] using Reconciles.skipped nobody
  | @deciding evaluation questions faithful ahead =>
      cases spot with
      | question channel =>
          have later : (questions ++ ((evaluation.asked? channel).bind fun guard =>
              some (guard, channel)).toList ++ (evaluation.ask channel).ahead).Perm
                (board.directory.questions principal) := by
            cases asked : evaluation.asked? channel with
            | none => simpa [Evaluation.ask_of_asked?_eq_none asked] using ahead
            | some guard =>
                rw [Option.bind_some, Option.toList_some, List.append_assoc]
                exact ((faithful.ahead_ask asked).symm.append_left questions).trans ahead
          have settled := reconciles_settle user found (faithful.ask channel) later
          simpa [Pass.perform, inquiry?, Switchboard.attempt?, Option.bind_map, Function.comp_def,
            Inquiry.question?] using settled
      | _ => simpa [Pass.perform, inquiry?] using Reconciles.deciding faithful ahead
  | @reconciling batch issued attempts questions asked accounts =>
      cases spot with
      | operation operation =>
          have unasked : ((Pass.reconciling batch).inquiry? (.operation operation)).bind
              Inquiry.question? = none := by
            simp only [inquiry?]
            split <;> rfl
          rw [unasked, Option.toList_none, List.append_nil]
          simp only [Pass.perform, underWay_reconciling]
          exact .reconciling asked (accounts.perform board passage operation)
      | _ => simpa [Pass.perform, inquiry?] using Reconciles.reconciling asked accounts

/-- When the pass is over, nothing is under way, and unless there was nobody to reconcile everything has
been attempted. -/
theorem Reconciles.outcome
    (reconciles : pass.Reconciles directory user principal found issued attempts questions)
    {outcome : Outcome} (finished : pass.outcome? = some outcome) :
    pass.underWay = [] ∧
      (found = [] ∧ issued = [] ∧ attempts = [] ∧ outcome = .noConnections ∨
        issued = (Work.reconcile principal).operations directory found ∧
          (attempts.map Attempt.operation).Perm issued ∧
          questions.Perm (directory.questions principal) ∧
          outcome = .applied ((Report.start user found.length).tell attempts)) := by
  cases reconciles with
  | skipped nobody =>
      cases finished
      exact ⟨rfl, .inl ⟨nobody, rfl, rfl, rfl⟩⟩
  | deciding faithful ahead => cases finished
  | @reconciling batch issued attempts questions asked accounts =>
      cases done : batch.isDone with
      | false => simp [outcome?, done] at finished
      | true =>
          obtain ⟨rfl, all⟩ := accounts.done done
          simp only [outcome?, done, if_true, accounts.told, Option.some.injEq] at finished
          refine ⟨?_, .inr ⟨rfl, all, asked, finished.symm⟩⟩
          rw [underWay_reconciling]
          exact List.isEmpty_iff.1 done

end Pass

namespace Strand

/-- How far a strand has come that refreshes a user in one pass. -/
inductive Reconciles (directory : Directory) (user : UserKey) (principal : Principal)
    (found : List Connection) :
    List Operation → List Attempt → List (Guard × Channel) → Strand → Prop
  /-- The pass is going on. -/
  | going {issued : List Operation} {attempts : List Attempt} {questions : List (Guard × Channel)}
    {run : Run}
    (reconciles : run.pass.Reconciles directory user principal found issued attempts questions) :
    Reconciles directory user principal found issued attempts questions (.running run none)
  /-- There was nobody to reconcile. -/
  | nobody {issued : List Operation} {attempts : List Attempt}
    {questions : List (Guard × Channel)} (nobody : found = []) :
    Reconciles directory user principal found issued attempts questions
      (.ended (.settled .noConnections))
  /-- Everything has been attempted. -/
  | applied {attempts : List Attempt} {questions : List (Guard × Channel)}
    (all : (attempts.map Attempt.operation).Perm
      ((Work.reconcile principal).operations directory found))
    (asked : questions.Perm (directory.questions principal)) :
    Reconciles directory user principal found
      ((Work.reconcile principal).operations directory found) attempts questions
      (.ended (.settled (.applied ((Report.start user found.length).tell attempts))))
  /-- The strand was given up. -/
  | dropped {issued : List Operation} {attempts : List Attempt}
    {questions : List (Guard × Channel)} :
    Reconciles directory user principal found issued attempts questions .dropped

variable {directory : Directory} {user : UserKey} {principal : Principal}
  {found : List Connection} {issued : List Operation} {attempts : List Attempt}
  {questions : List (Guard × Channel)} {strand : Strand}

/-- A run that makes no further pass ends with its pass. -/
theorem reconciles_advance {run : Run} {board : Switchboard} (last : run.next? board = none)
    (reconciles : run.pass.Reconciles directory user principal found issued attempts questions) :
    (ofRunState none (run.advance board).2).Reconciles directory user principal found issued attempts
        questions ∧
      (ofRunState none (run.advance board).2).underWay = run.pass.underWay := by
  cases finished : run.pass.outcome? with
  | none =>
      simp only [Run.advance, finished]
      exact ⟨.going reconciles, rfl⟩
  | some outcome =>
      have unparked : (board.slots.next run.ticket).2.2 = none := by
        simpa [Run.next?, finished] using last
      have ends : ofRunState none (run.advance board).2 = .ended (.settled outcome) := by
        simp only [Run.advance, finished, unparked]
        rfl
      obtain ⟨idle, ⟨nobody, -, -, rfl⟩ | ⟨rfl, all, asked, rfl⟩⟩ := reconciles.outcome finished
      · rw [ends, idle]
        exact ⟨.nobody nobody, rfl⟩
      · rw [ends, idle]
        exact ⟨.applied all asked, rfl⟩

/-- A run that makes no further pass goes on with the answer at a spot. -/
theorem Reconciles.perform {run : Run} {board : Switchboard}
    (reconciles : run.pass.Reconciles board.directory user principal found issued attempts
      questions)
    {passage : Passage} {spot : Spot} (last : run.successor? board passage spot = none) :
    ((running run none).perform board passage spot).2.Reconciles board.directory user principal
      found
      (issued ++ issuedBetween (running run none).underWay
        ((running run none).perform board passage spot).2.underWay
        (board.attempt? passage spot ((running run none).inquiry? spot)))
      (attempts ++ (board.attempt? passage spot ((running run none).inquiry? spot)).toList)
      (questions ++ (((running run none).inquiry? spot).bind Inquiry.question?).toList) := by
  obtain ⟨performed, underWay⟩ :=
    reconciles_advance last (reconciles.perform passage spot)
  have next : ((running run none).perform board passage spot).2 =
      ofRunState none (Run.advance { run with pass := (run.pass.perform board passage spot).2 }
        (run.pass.perform board passage spot).1).2 := rfl
  rw [next, underWay]
  exact performed

/-- The strand ends with its pass. -/
theorem Reconciles.conclusion_eq {conclusion : Conclusion}
    (reconciles : (ended conclusion).Reconciles directory user principal found issued attempts
      questions) :
    found = [] ∧ conclusion = .settled .noConnections ∨
      issued = (Work.reconcile principal).operations directory found ∧
        (attempts.map Attempt.operation).Perm issued ∧
        questions.Perm (directory.questions principal) ∧
        conclusion = .settled (.applied ((Report.start user found.length).tell attempts)) := by
  cases reconciles with
  | nobody nobody => exact .inl ⟨nobody, rfl⟩
  | applied all asked => exact .inr ⟨rfl, all, asked, rfl⟩

end Strand

/-- The work with which a strand goes on after its pass at the moment, if it does. -/
def Moment.rerun? (position : Nat) (moment : Moment) : Option Work :=
  match moment.event, moment.system.strands[position]? with
  | .perform other spot passage, some (.running run _) =>
    if other = position then run.successor? moment.system.board passage spot else none
  | _, _ => none

/-- A run that enters an idle slot makes no further pass at that moment. -/
theorem Run.start_of_idle {board : Switchboard} {user : UserKey} (work : Work)
    (idle : board.slots.slot user = .idle) :
    ∃ (run : Run) (taken : Switchboard), Run.start board user work = run.advance taken ∧
      run.next? taken = none ∧
      run.pass = (Pass.start { board with slots := board.slots.set user (.running none) } user
        work).2 := by
  refine ⟨⟨⟨user, true⟩, work, _⟩, _, by simp only [Run.start, Slots.enter, idle]; rfl, ?_, rfl⟩
  have held : (Pass.start { board with slots := board.slots.set user (.running none) } user
      work).1.slots.slot user = .running none := by
    rw [Pass.start_board]
    exact Slots.slot_set_self _ _ _
  simp [Run.next?, Slots.next_of_running_none held]

section Refresh

variable {user : UserKey} {principal : Principal} {found : List Connection}
  {issued : List Operation} {attempts : List Attempt} {questions : List (Guard × Channel)}
  {strand : Strand} {moment : Moment} {position : Nat}

/-- A strand that refreshes a user in one pass comes one step further. -/
theorem Strand.Reconciles.next (moment : Moment)
    (reconciles : strand.Reconciles moment.system.board.directory user principal found issued
      attempts questions)
    (present : moment.system.strands[position]? = some strand)
    (last : moment.rerun? position = none) :
    ∃ after, moment.next.strands[position]? = some after ∧
      after.Reconciles moment.system.board.directory user principal found
        (issued ++ moment.issues position) (attempts ++ (moment.attemptOf? position).toList)
        (questions ++ (moment.questionOf? position).toList) := by
  have stays (same : moment.next.strands[position]? = some strand)
      (silent : moment.attemptOf? position = none ∧ moment.questionOf? position = none) :
      ∃ after, moment.next.strands[position]? = some after ∧
        after.Reconciles moment.system.board.directory user principal found
          (issued ++ moment.issues position) (attempts ++ (moment.attemptOf? position).toList)
          (questions ++ (moment.questionOf? position).toList) := by
    refine ⟨strand, same, ?_⟩
    simpa [Moment.issues_eq_nil present same silent.1, silent] using reconciles
  have finished (finished : strand.isOver = true) :=
    stays (Moment.strand_next_of_isOver present finished)
      (Moment.silent_of_isOver present finished)
  cases reconciles with
  | nobody nobody => exact finished rfl
  | applied all asked => exact finished rfl
  | dropped => exact finished rfl
  | @going issued attempts questions run reconciles =>
      cases moment.turn present nofun with
      | stays strand_eq elsewhere =>
          exact stays strand_eq
            ⟨Moment.attemptOf?_eq_none elsewhere, Moment.questionOf?_eq_none elsewhere⟩
      | answers spot passage event strand_eq board_eq =>
          have single : run.successor? moment.system.board passage spot = none := by
            simpa [Moment.rerun?, event, present] using last
          refine ⟨_, strand_eq, ?_⟩
          rw [Moment.issues_eq present strand_eq, Moment.attemptOf?_of_perform event present,
            Moment.questionOf?_of_perform event present]
          exact Strand.Reconciles.perform reconciles single
      | expires event strand_eq board_eq =>
          exact stays strand_eq ⟨Moment.attemptOf?_eq_none (by simp [event]),
            Moment.questionOf?_eq_none (by simp [event])⟩
      | abandoned kept event strand_eq => exact ⟨_, strand_eq, .dropped⟩

/-- Work arrives with a request, or with the answer of the account store. -/
theorem Moment.source_of_arrival? {arrival : Arrival} (arrived : moment.arrival? = some arrival) :
    (arrival.failure = none ∧
        ∀ position spot passage, moment.event ≠ .perform position spot passage) ∨
      ∃ position passage user account, moment.event = .perform position .account passage ∧
        moment.system.strands[position]? = some (.lookingUp user) ∧
          Account.demand user account = (arrival.work, arrival.failure) := by
  have requested {strand : Nat} {user : UserKey} {demand : Work × Option LookupError}
      (arrived : moment.request? strand user demand = some arrival) :
      demand = (arrival.work, arrival.failure) := by
    unfold request? at arrived
    split at arrived
    · cases arrived
      rfl
    · cases arrived
  unfold arrival? at arrived
  split at arrived
  · rename_i event
    obtain ⟨user, -, arrived⟩ := Option.bind_eq_some_iff.1 arrived
    exact .inl ⟨(congrArg Prod.snd (requested arrived)).symm, by simp [event]⟩
  · rename_i event
    exact .inl ⟨(congrArg Prod.snd (requested arrived)).symm, by simp [event]⟩
  · rename_i position passage event
    split at arrived
    · rename_i user asking
      exact .inr ⟨position, passage, user, _, event, asking, requested arrived⟩
    · cases arrived
  · rename_i event
    obtain ⟨⟨user, work⟩, -, rfl⟩ := Option.map_eq_some_iff.1 arrived
    exact .inl ⟨rfl, by simp [event]⟩
  · cases arrived

/-- Work arrives without an attempt and without a question. -/
theorem Moment.silent_of_arrival? {arrival : Arrival} (arrived : moment.arrival? = some arrival)
    (position : Nat) :
    moment.attemptOf? position = none ∧ moment.questionOf? position = none := by
  rcases source_of_arrival? arrived with ⟨-, elsewhere⟩ | ⟨other, passage, user, -, event, asking, -⟩
  · exact ⟨attemptOf?_eq_none (elsewhere position), questionOf?_eq_none (elsewhere position)⟩
  · by_cases here : other = position
    · subst here
      rw [attemptOf?_of_perform event asking, questionOf?_of_perform event asking]
      exact ⟨rfl, rfl⟩
    · have elsewhere : ∀ spot passage, moment.event ≠ .perform position spot passage := by
        simp [event, here]
      exact ⟨attemptOf?_eq_none elsewhere, questionOf?_eq_none elsewhere⟩

/-- A principal is reconciled only if the look-up has not failed. -/
theorem Moment.failure_of_reconcile {arrival : Arrival}
    (arrived : moment.arrival? = some arrival) (work : arrival.work = .reconcile principal) :
    arrival.failure = none := by
  rcases source_of_arrival? arrived with ⟨succeeded, -⟩ | ⟨-, -, user, account, -, -, demanded⟩
  · exact succeeded
  · rw [work] at demanded
    cases account with
    | known known =>
        simp only [Account.demand] at demanded
        split at demanded
        · exact (congrArg Prod.snd demanded).symm
        · cases demanded
    | _ => cases demanded

/-- A refresh that enters an idle slot begins its pass on the connections live at that moment. -/
theorem reconciles_opening {arrival : Arrival} (arrived : moment.arrival? = some arrival)
    (opens : arrival.opens = true) (work : arrival.work = .reconcile principal) :
    ∃ strand, moment.next.strands[arrival.strand]? = some strand ∧
      strand.Reconciles moment.system.board.directory arrival.user principal
        (moment.system.board.presence.connections arrival.user) (moment.issues arrival.strand)
        (moment.attemptOf? arrival.strand).toList (moment.questionOf? arrival.strand).toList := by
  have idle : moment.system.board.slots.slot arrival.user = .idle := by
    rw [Moment.opens_of_arrival? arrived] at opens
    exact of_decide_eq_true opens
  obtain ⟨unattempted, unasked⟩ := Moment.silent_of_arrival? arrived arrival.strand
  have arrives := Moment.arrives_of_arrival? arrived
  have strand := arrives.strand
  obtain ⟨run, taken, started, last, pass⟩ := Run.start_of_idle arrival.work idle
  rw [Moment.failure_of_reconcile arrived work, started] at strand
  have begun := Pass.reconciles_start { moment.system.board with
    slots := moment.system.board.slots.set arrival.user (.running none) } arrival.user principal
  rw [← work, ← pass] at begun
  obtain ⟨reconciles, underWay⟩ := Strand.reconciles_advance last begun
  have nothing : moment.system.underWay arrival.strand = [] := by
    rcases arrives.fresh with absent | ⟨user, asking⟩
    · simp [System.underWay, absent]
    · simp only [System.underWay, asking]
      rfl
  refine ⟨_, strand, ?_⟩
  rw [Moment.issues, nothing, unattempted, unasked, issuedBetween_from_nil]
  simp only [System.underWay, strand, Option.elim_some, underWay]
  exact reconciles

/-- Whatever else happens, the strand goes on refreshing the user. -/
theorem reconciles_run {arrival : Arrival} (arrived : moment.arrival? = some arrival)
    (opens : arrival.opens = true) (work : arrival.work = .reconcile principal) (rest : List Event)
    (single : ∀ later ∈ moment.next.moments rest, later.rerun? arrival.strand = none) :
    ∃ strand, (moment.next.run rest).strands[arrival.strand]? = some strand ∧
      strand.Reconciles moment.system.board.directory arrival.user principal
        (moment.system.board.presence.connections arrival.user)
        (issuedBy arrival.strand (moment :: moment.next.moments rest))
        (attemptsOf arrival.strand (moment :: moment.next.moments rest))
        (questionsOf arrival.strand (moment :: moment.next.moments rest)) := by
  induction rest using List.reverseRecOn with
  | nil =>
      obtain ⟨strand, present, reconciles⟩ := reconciles_opening arrived opens work
      refine ⟨strand, present, ?_⟩
      have first : moment :: moment.next.moments [] = [] ++ [moment] := rfl
      rw [first, issuedBy_concat, attemptsOf_concat, questionsOf_concat]
      exact reconciles
  | append_singleton events event induction =>
      rw [System.moments_concat] at single ⊢
      obtain ⟨strand, present, reconciles⟩ :=
        induction fun later member => single later (List.mem_append_left _ member)
      have directory : (moment.next.run events).board.directory = moment.system.board.directory :=
        (moment.next.run_directory events).trans moment.directory_next
      rw [System.run_concat, ← List.cons_append, issuedBy_concat, attemptsOf_concat,
        questionsOf_concat]
      rw [← directory] at reconciles ⊢
      exact Strand.Reconciles.next ⟨moment.next.run events, event⟩ reconciles present
        (single _ (List.mem_append_right _ List.mem_cons_self))

end Refresh

theorem Work.length_operations (directory : Directory) (connections : List Connection)
    (principal : Principal) :
    ((reconcile principal).operations directory connections).length =
      connections.length * directory.size := by
  have split := List.length_eq_length_filter_add (l := directory.channels)
    (directory.grants principal)
  have row (connection : Connection) :
      ((directory.authorize principal).authorized.map (Operation.join connection) ++
        (directory.authorize principal).unauthorized.map (Operation.leave connection)).length =
          directory.size := by
    rw [List.length_append, List.length_map, List.length_map]
    exact split.symm
  simp only [operations, partition, Pass.matrix, List.length_flatMap, row, List.map_const',
    List.sum_replicate_nat]

/-- The successful joins and the successful leaves are all that succeeded. -/
theorem Report.joined_append_left (report : Report) :
    (report.joined ++ report.left).Perm report.applied := by
  have left : report.left = report.applied.filter fun operation =>
      !decide (operation.action = .join) := by
    refine List.filter_congr fun operation _ => ?_
    cases operation.action <;> rfl
  rw [left]
  exact List.filter_append_perm _ _

section Passage

variable {board : Switchboard} {spot : Spot}

/-- Which operation is attempted does not depend on what becomes of it, and neither does what is issued
next. -/
theorem issuedBetween_attempt? (before after : List Operation) (passage other : Passage)
    (inquiry? : Option Inquiry) :
    issuedBetween before after (board.attempt? passage spot inquiry?) =
      issuedBetween before after (board.attempt? other spot inquiry?) := by
  cases spot <;> cases inquiry? <;> rfl

/-- How a pass goes on does not depend on what becomes of an operation. -/
theorem Pass.perform_passage (pass : Pass) (board : Switchboard) (spot : Spot)
    (passage other : Passage) :
    (pass.perform board passage spot).2.underWay = (pass.perform board other spot).2.underWay ∧
      (pass.perform board passage spot).2.outcome?.isSome =
        (pass.perform board other spot).2.outcome?.isSome := by
  have underWay_eq (batch : Batch) (operation : Operation) :
      (batch.perform board passage operation).2.underWay =
        (batch.perform board other operation).2.underWay := by
    by_cases busy : operation ∈ batch.underWay <;> simp [Batch.perform, Batch.complete, busy]
  have isDone_eq (batch : Batch) (operation : Operation) :
      (batch.perform board passage operation).2.isDone =
        (batch.perform board other operation).2.isDone := by
    rw [Batch.isDone, underWay_eq, Batch.isDone]
  cases pass with
  | skipped => exact ⟨rfl, rfl⟩
  | deciding user connections evaluation => cases spot <;> exact ⟨rfl, rfl⟩
  | reconciling batch =>
      cases spot with
      | operation operation =>
          simp only [Pass.perform, underWay_reconciling, underWay_eq, Pass.outcome?, isDone_eq]
          refine ⟨trivial, ?_⟩
          split <;> rfl
      | _ => exact ⟨rfl, rfl⟩
  | revoking batch =>
      cases spot with
      | operation operation =>
          simp only [Pass.perform, underWay_revoking, underWay_eq, Pass.outcome?, isDone_eq]
          refine ⟨trivial, ?_⟩
          split <;> rfl
      | _ => exact ⟨rfl, rfl⟩

/-- Whether a run makes a further pass does not depend on what becomes of an operation. -/
theorem Run.successor?_passage (run : Run) (board : Switchboard) (spot : Spot)
    (passage other : Passage) :
    run.successor? board passage spot = run.successor? board other spot := by
  have slots (passage : Passage) : (run.pass.perform board passage spot).1.slots = board.slots := by
    rw [Pass.perform_board]
  simp only [Run.successor?, Run.next?, slots, (run.pass.perform_passage board spot passage other).2]

end Passage

/-- A report covers the whole matrix of the connections found and the known channels. -/
structure Report.CoversMatrix (directory : Directory) (user : UserKey) (principal : Principal)
    (found : List Connection) (issued : List Operation) (attempts : List Attempt)
    (questions : List (Guard × Channel)) (report : Report) : Prop where
  /-- The report is about the user and the connections found, and lists what was issued. -/
  covers : report.Covers user found.length issued
  /-- It tells what was attempted, and everything that was issued has been. -/
  tells : report.Tells attempts ∧ (attempts.map Attempt.operation).Perm issued
  /-- No two operations were issued about the same membership. -/
  distinct : (issued.map Operation.pair).Nodup
  /-- An operation was issued for every connection found and every known channel, a join if the channel
  is authorised for the principal and a leave otherwise, and nothing else was. -/
  mem_issued : ∀ operation, operation ∈ issued ↔
    operation.connection ∈ found ∧ operation.channel ∈ directory.channels ∧
      operation.isJoin = (directory.authorize principal).authorizes operation.channel
  /-- The numbers agree. -/
  size : report.applied.length + report.failures.length = found.length * directory.size
  /-- Successful joins, successful leaves and failures make up what was issued. -/
  parts : (report.joined ++ report.left ++ report.failures.map Prod.fst).Perm issued
  /-- The questions were those of one authorisation. -/
  asked : questions.Perm (directory.questions principal)

/-- A refresh that makes one pass, begun at a moment and followed by some events. -/
structure Moment.RefreshesInOnePass (opening : Moment) (arrival : Arrival) (principal : Principal)
    (rest : List Event) : Prop where
  /-- It has no other end than that of its pass. -/
  concluded : ∀ conclusion,
    (opening.next.run rest).strands[arrival.strand]? = some (.ended conclusion) →
      opening.system.board.presence.connections arrival.user = [] ∧
          conclusion = .settled .noConnections ∨
        ∃ report, conclusion = .settled (.applied report)
  /-- When it is applied, its report covers the whole matrix. -/
  covered : ∀ report,
    (opening.next.run rest).strands[arrival.strand]? = some (.ended (.settled (.applied report))) →
      report.CoversMatrix opening.system.board.directory arrival.user principal
        (opening.system.board.presence.connections arrival.user)
        (issuedBy arrival.strand (opening :: opening.next.moments rest))
        (attemptsOf arrival.strand (opening :: opening.next.moments rest))
        (questionsOf arrival.strand (opening :: opening.next.moments rest))
  /-- What it issues at an answer does not depend on whether the operation succeeds or fails. -/
  undeterred : ∀ moment ∈ opening.next.moments rest, ∀ spot passage other,
    moment.event = .perform arrival.strand spot passage →
      Moment.issues arrival.strand ⟨moment.system, .perform arrival.strand spot other⟩ =
        moment.issues arrival.strand

section Passage

variable {directory : Directory} {user : UserKey} {principal : Principal}
  {found : List Connection} {issued : List Operation} {attempts : List Attempt}
  {questions : List (Guard × Channel)} {strand : Strand} {position : Nat} {spot : Spot}
  {passage : Passage}

/-- What a run that makes no further pass issues when the answer at a spot comes about. -/
theorem Moment.issues_of_running (moment : Moment) {run : Run}
    (reconciles : run.pass.Reconciles moment.system.board.directory user principal found issued
      attempts questions)
    (present : moment.system.strands[position]? = some (.running run none))
    (event : moment.event = .perform position spot passage)
    (last : run.successor? moment.system.board passage spot = none) :
    moment.issues position = issuedBetween run.pass.underWay
      (run.pass.perform moment.system.board passage spot).2.underWay
      (moment.system.board.attempt? passage spot (run.pass.inquiry? spot)) := by
  have after : moment.next.strands[position]? =
      some ((Strand.running run none).perform moment.system.board passage spot).2 := by
    rw [next_of_perform event present]
    exact List.getElem?_set_self (List.getElem?_eq_some_iff.1 present).1
  obtain ⟨-, underWay⟩ := Strand.reconciles_advance last (reconciles.perform passage spot)
  rw [issues_eq present after, attemptOf?_of_perform event present]
  exact congrArg (issuedBetween _ · _) underWay

/-- What a refresh issues next does not depend on what becomes of an operation. -/
theorem Strand.Reconciles.issues_passage {moment : Moment}
    (reconciles : strand.Reconciles moment.system.board.directory user principal found issued
      attempts questions)
    (present : moment.system.strands[position]? = some strand)
    (last : moment.rerun? position = none) (event : moment.event = .perform position spot passage)
    (other : Passage) :
    Moment.issues position ⟨moment.system, .perform position spot other⟩ =
      moment.issues position := by
  have finished (finished : strand.isOver = true) :
      Moment.issues position ⟨moment.system, .perform position spot other⟩ =
        moment.issues position := by
    have idle (moment : Moment) (present : moment.system.strands[position]? = some strand) :
        moment.issues position = [] :=
      Moment.issues_eq_nil present (Moment.strand_next_of_isOver present finished)
        (Moment.silent_of_isOver present finished).1
    rw [idle moment present, idle ⟨moment.system, .perform position spot other⟩ present]
  cases reconciles with
  | nobody nobody => exact finished rfl
  | applied all asked => exact finished rfl
  | dropped => exact finished rfl
  | @going issued attempts questions run reconciles =>
      have single : run.successor? moment.system.board passage spot = none := by
        simpa [Moment.rerun?, event, present] using last
      have single' : run.successor? moment.system.board other spot = none := by
        rw [← single]
        exact run.successor?_passage moment.system.board spot other passage
      rw [moment.issues_of_running reconciles present event single,
        Moment.issues_of_running ⟨moment.system, .perform position spot other⟩ reconciles present rfl
          single',
        (run.pass.perform_passage moment.system.board spot other passage).1,
        issuedBetween_attempt? _ _ other passage]

end Passage

/-- The channels that are authorised are the known ones that are granted. -/
theorem Directory.authorizes_eq_grants {directory : Directory} (principal : Principal)
    {channel : Channel} (governed : directory.governs channel = true) :
    (directory.authorize principal).authorizes channel = directory.grants principal channel := by
  rw [Bool.eq_iff_iff, Partition.authorizes, List.contains_iff_mem, mem_authorized]
  simp [governed]

theorem Report.coversMatrix_tell {directory : Directory} {principal : Principal}
    {found : List Connection} {attempts : List Attempt} {questions : List (Guard × Channel)}
    (user : UserKey) (separate : found.Nodup)
    (all : (attempts.map Attempt.operation).Perm
      ((Work.reconcile principal).operations directory found))
    (asked : questions.Perm (directory.questions principal)) :
    ((Report.start user found.length).tell attempts).CoversMatrix directory user principal found
      ((Work.reconcile principal).operations directory found) attempts questions := by
  have covers := Report.covers_tell all user found.length
  have parts := covers.recorded_perm
  have size := parts.length_eq
  rw [Report.recorded] at parts
  refine ⟨covers, ⟨Report.tells_tell user _ attempts, all⟩, Work.nodup_operations _ separate,
    fun operation => ?_, ?_, ?_, asked⟩
  · rw [Work.mem_operations, Directory.mem_channels]
    refine and_congr_right fun _ => and_congr_right fun governed => ?_
    rw [Directory.authorizes_eq_grants principal governed]
    rfl
  · rw [Work.length_operations, Report.recorded, List.length_append, List.length_map] at size
    exact size
  · exact ((Report.joined_append_left _).append_right _).trans parts

/-- A refresh that makes one pass issues one operation for every connection that its user has when the
pass begins, and every known channel. -/
theorem refresh_covers_matrix {opening : Moment} {arrival : Arrival} {principal : Principal}
    (arrived : opening.arrival? = some arrival) (opens : arrival.opens = true)
    (work : arrival.work = .reconcile principal) (rest : List Event)
    (single : ∀ moment ∈ opening.next.moments rest, moment.rerun? arrival.strand = none) :
    opening.RefreshesInOnePass arrival principal rest := by
  obtain ⟨strand, present, reconciles⟩ := reconciles_run arrived opens work rest single
  refine ⟨fun conclusion ended => ?_, fun report ended => ?_,
    fun moment member spot passage other event => ?_⟩
  · rw [present] at ended
    obtain rfl := Option.some.inj ended
    exact reconciles.conclusion_eq.imp_right fun applied => ⟨_, applied.2.2.2⟩
  · rw [present] at ended
    obtain rfl := Option.some.inj ended
    obtain ⟨-, never⟩ | ⟨issued, all, asked, same⟩ := reconciles.conclusion_eq
    · cases never
    · cases same
      rw [issued] at all ⊢
      exact Report.coversMatrix_tell arrival.user
        (opening.system.board.presence.nodup_connections arrival.user) all asked
  · obtain ⟨before, after, rfl, reached⟩ := System.exists_of_mem_moments member
    rw [System.moments_append] at single
    obtain ⟨strand, present, reconciles⟩ := reconciles_run arrived opens work before
      fun later among => single later (List.mem_append_left _ among)
    rw [← reached] at present
    have directory : moment.system.board.directory = opening.system.board.directory := by
      rw [reached, System.run_directory, opening.directory_next]
    rw [← directory] at reconciles
    have last := single moment (by
      rw [← reached]
      exact List.mem_append_right _ List.mem_cons_self)
    exact reconciles.issues_passage present last event other

/-- The newsroom with two connections of an editor. -/
def twoEditors : System :=
  quietNewsroom.run [.register firstUser ⟨"c1"⟩, .register firstUser ⟨"c2"⟩]

/-- The guard is asked once, then the first join fails and the second one succeeds. -/
def halfRefresh : List Event :=
  [.perform 0 (.question ⟨"news"⟩) .through,
    .perform 0 (.operation (.join ⟨"c1"⟩ ⟨"news"⟩)) (.blocked (.failed "lost")),
    .perform 0 (.operation (.join ⟨"c2"⟩ ⟨"news"⟩)) .through]

theorem half_refresh_covers_newsroom :
    ∃ report,
      (twoEditors.run (.submit (.refresh editor) :: halfRefresh)).strands[0]? =
        some (.ended (.settled (.applied report))) ∧
      report.failures = [(.join ⟨"c1"⟩ ⟨"news"⟩, .failed "lost")] ∧
      twoEditors.board.presence.connections firstUser = [⟨"c1"⟩, ⟨"c2"⟩] ∧
      report.CoversMatrix twoEditors.board.directory firstUser editor
        (twoEditors.board.presence.connections firstUser)
        (issuedBy 0 (twoEditors.moments (.submit (.refresh editor) :: halfRefresh)))
        (attemptsOf 0 (twoEditors.moments (.submit (.refresh editor) :: halfRefresh)))
        (questionsOf 0 (twoEditors.moments (.submit (.refresh editor) :: halfRefresh))) := by
  have arrived : Moment.arrival? ⟨twoEditors, .submit (.refresh editor)⟩ =
      some ⟨firstUser, .reconcile editor, none, 0, false, true⟩ := by decide +kernel
  have once := refresh_covers_matrix arrived rfl rfl halfRefresh (by decide +kernel)
  have ended : (twoEditors.run (.submit (.refresh editor) :: halfRefresh)).strands[0]? =
      some (.ended (.settled (.applied ⟨some firstUser, 2, [.join ⟨"c2"⟩ ⟨"news"⟩],
        [(.join ⟨"c1"⟩ ⟨"news"⟩, .failed "lost")]⟩))) := rfl
  exact ⟨_, ended, rfl, by decide +kernel, once.covered _ ended⟩

end ChannelMembership
