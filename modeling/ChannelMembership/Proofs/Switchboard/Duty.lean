import ChannelMembership.Proofs.Switchboard.Attendance
import ChannelMembership.Proofs.Switchboard.Completion
import ChannelMembership.Proofs.Switchboard.Seclusion
import ChannelMembership.Proofs.WholeMatrix

/-!
# Duties

A strand that serves one user has a duty: the work to be done, and the failure to be reported when it
is done.  As long as nobody else works for the user, the strand does its duty in one pass on the
connections that the user has, and then it is over.
-/

namespace ChannelMembership

namespace Work

/-- The questions that the work puts to guards. -/
def questions (directory : Directory) : Work → List (Guard × Channel)
  | reconcile principal => directory.questions principal
  | revoke => []

/-- The outcome of the work when a connection was found. -/
def outcome (report : Report) : Work → Outcome
  | reconcile _ => .applied report
  | revoke => .revoked report

end Work

namespace Pass

/-- How far a pass has come with some work on connections, in operations issued, operations attempted
and questions answered. -/
inductive CarriesOut (directory : Directory) (user : UserKey) (found : List Connection) :
    Work → List Operation → List Attempt → List (Guard × Channel) → Pass → Prop
  /-- The connections are reconciled with a principal. -/
  | reconciles {principal : Principal} {issued : List Operation} {attempts : List Attempt}
    {questions : List (Guard × Channel)} {pass : Pass}
    (reconciles : pass.Reconciles directory user principal found issued attempts questions) :
    CarriesOut directory user found (.reconcile principal) issued attempts questions pass
  /-- All memberships are revoked. -/
  | revokes {issued : List Operation} {attempts : List Attempt} {batch : Batch}
    (accounts : batch.Accounts (Report.start user found.length)
      (Work.revoke.operations directory found) issued attempts) :
    CarriesOut directory user found .revoke issued attempts [] (revoking batch)

/-- A pass finds the connections that the user has at that moment. -/
theorem carriesOut_start (board : Switchboard) (user : UserKey) (work : Work) :
    (start board user work).2.CarriesOut board.directory user (board.presence.connections user)
      work (start board user work).2.underWay [] [] := by
  cases work with
  | reconcile principal => exact .reconciles (reconciles_start board user principal)
  | revoke =>
      simp only [start, ← Work.operations_revoke, underWay_revoking]
      exact .revokes (Batch.accounts_start _ _ _)

variable {board : Switchboard} {directory : Directory} {user : UserKey} {found : List Connection}
  {work : Work} {issued : List Operation} {attempts : List Attempt}
  {questions : List (Guard × Channel)} {pass : Pass}

/-- A pass goes on with the answer at a spot. -/
theorem CarriesOut.perform
    (carriesOut : pass.CarriesOut board.directory user found work issued attempts questions)
    (passage : Passage) (spot : Spot) :
    (pass.perform board passage spot).2.CarriesOut board.directory user found work
      (issued ++ issuedBetween pass.underWay (pass.perform board passage spot).2.underWay
        (board.attempt? passage spot (pass.inquiry? spot)))
      (attempts ++ (board.attempt? passage spot (pass.inquiry? spot)).toList)
      (questions ++ ((pass.inquiry? spot).bind Inquiry.question?).toList) := by
  cases carriesOut with
  | reconciles reconciles => exact .reconciles (reconciles.perform passage spot)
  | @revokes issued attempts batch accounts =>
      cases spot with
      | operation operation =>
          have unasked : ((Pass.revoking batch).inquiry? (.operation operation)).bind
              Inquiry.question? = none := by
            simp only [inquiry?]
            split <;> rfl
          rw [unasked, Option.toList_none, List.append_nil]
          simp only [Pass.perform, underWay_revoking]
          exact .revokes (accounts.perform board passage operation)
      | _ => simpa [Pass.perform, inquiry?] using CarriesOut.revokes accounts

/-- When a pass is over, everything has been attempted, unless nobody was found. -/
theorem CarriesOut.outcome_cases
    (carriesOut : pass.CarriesOut directory user found work issued attempts questions)
    {outcome : Outcome} (finished : pass.outcome? = some outcome) :
    pass.underWay = [] ∧
      (found = [] ∧ issued = [] ∧ attempts = [] ∧ outcome = .noConnections ∨
        issued = work.operations directory found ∧
          (attempts.map Attempt.operation).Perm issued ∧
          questions.Perm (work.questions directory) ∧
          outcome = work.outcome ((Report.start user found.length).tell attempts)) := by
  cases carriesOut with
  | reconciles reconciles => exact reconciles.outcome finished
  | @revokes issued attempts batch accounts =>
      cases done : batch.isDone with
      | false => simp [outcome?, done] at finished
      | true =>
          obtain ⟨rfl, all⟩ := accounts.done done
          simp only [outcome?, done, if_true, accounts.told, Option.some.injEq] at finished
          refine ⟨?_, .inr ⟨rfl, all, .refl _, finished.symm⟩⟩
          rw [underWay_revoking]
          exact List.isEmpty_iff.1 done

/-- When the pass on some connections is over, everything has been attempted. -/
theorem CarriesOut.outcome
    (carriesOut : pass.CarriesOut directory user found work issued attempts questions)
    (somebody : found ≠ []) {outcome : Outcome} (finished : pass.outcome? = some outcome) :
    pass.underWay = [] ∧ issued = work.operations directory found ∧
      (attempts.map Attempt.operation).Perm issued ∧
      questions.Perm (work.questions directory) ∧
      outcome = work.outcome ((Report.start user found.length).tell attempts) := by
  obtain ⟨idle, ⟨nobody, -⟩ | done⟩ := carriesOut.outcome_cases finished
  · exact absurd nobody somebody
  · exact ⟨idle, done⟩

end Pass

/-- What a strand has to do for a user. -/
structure Duty where
  /-- The user. -/
  user : UserKey
  /-- The work. -/
  work : Work
  /-- The failed look-up that is reported when the work is done. -/
  failure : Option LookupError

/-- The duty that arises from what the account store knows about a user. -/
def Account.duty (user : UserKey) (account : Account) : Duty :=
  ⟨user, (account.demand user).1, (account.demand user).2⟩

/-- Where the account store does not return a principal of a user, the user's memberships are to be
revoked. -/
theorem Account.work_duty_of_withheld {user : UserKey} {account : Account}
    (withheld : ∀ principal, account = .known principal → principal.user ≠ some user) :
    (account.duty user).work = .revoke := by
  cases account with
  | missing => rfl
  | failing reason => rfl
  | erring error => rfl
  | known principal => simp [duty, demand, withheld principal rfl]

namespace Duty

/-- The operations that carry out the duty. -/
def operations (duty : Duty) (board : Switchboard) : List Operation :=
  duty.work.operations board.directory (board.presence.connections duty.user)

/-- The report on the duty when these attempts have been made. -/
def report (duty : Duty) (board : Switchboard) (attempts : List Attempt) : Report :=
  (Report.start duty.user (board.presence.connections duty.user).length).tell attempts

/-- The end of a strand that has done its duty with these attempts. -/
def done (duty : Duty) (board : Switchboard) (attempts : List Attempt) : Strand :=
  .ofRunState duty.failure (.over (duty.work.outcome (duty.report board attempts)))

end Duty

/-- How far a strand has come with its duty while nobody else works for the user. -/
inductive Strand.Tends (board : Switchboard) (duty : Duty) :
    List Operation → List Attempt → List (Guard × Channel) → Strand → Prop
  /-- The user is waiting to be looked at. -/
  | queued (idle : board.slots.slot duty.user = .idle)
    (demanded : (board.accounts duty.user).duty duty.user = duty) :
    Tends board duty [] [] [] (.queued duty.user)
  /-- The user has no connection. -/
  | offline (offline : board.presence.isOnline duty.user = false) :
    Tends board duty [] [] [] (.ended (.settled .noConnections))
  /-- The account store is being asked about the user. -/
  | lookingUp (online : board.presence.isOnline duty.user = true)
    (idle : board.slots.slot duty.user = .idle)
    (demanded : (board.accounts duty.user).duty duty.user = duty) :
    Tends board duty [] [] [] (.lookingUp duty.user)
  /-- The only pass is under way. -/
  | running {issued : List Operation} {attempts : List Attempt}
    {questions : List (Guard × Channel)} {pass : Pass}
    (online : board.presence.isOnline duty.user = true)
    (held : board.slots.slot duty.user = .running none)
    (steady : (RunState.active ⟨⟨duty.user, true⟩, duty.work, pass⟩).Steady)
    (carriesOut : pass.CarriesOut board.directory duty.user
      (board.presence.connections duty.user) duty.work issued attempts questions) :
    Tends board duty issued attempts questions
      (.running ⟨⟨duty.user, true⟩, duty.work, pass⟩ duty.failure)
  /-- The duty is done. -/
  | done {attempts : List Attempt} {questions : List (Guard × Channel)}
    (online : board.presence.isOnline duty.user = true)
    (all : (attempts.map Attempt.operation).Perm (duty.operations board))
    (asked : questions.Perm (duty.work.questions board.directory)) :
    Tends board duty (duty.operations board) attempts questions (duty.done board attempts)

theorem Presence.connections_ne_nil (presence : Presence) {user : UserKey}
    (online : presence.isOnline user = true) : presence.connections user ≠ [] := by
  obtain ⟨connection, registered⟩ := (presence.isOnline_iff user).1 online
  exact List.ne_nil_of_mem ((presence.mem_connections user connection).2 registered)

theorem Presence.connections_of_offline (presence : Presence) {user : UserKey}
    (offline : presence.isOnline user = false) : presence.connections user = [] := by
  refine List.eq_nil_iff_forall_not_mem.2 fun connection member => ?_
  have registered := (presence.mem_connections user connection).1 member
  rw [(presence.isOnline_iff user).2 ⟨connection, registered⟩] at offline
  cases offline

/-- A run that enters an idle slot makes its pass as its owner. -/
theorem Run.start_eq_advance {board : Switchboard} {user : UserKey} (work : Work)
    (idle : board.slots.slot user = .idle) :
    Run.start board user work =
      Run.advance ⟨⟨user, true⟩, work, (Pass.start { board with
          slots := board.slots.set user (.running none) } user work).2⟩
        (Pass.start { board with slots := board.slots.set user (.running none) } user work).1 := by
  simp only [Run.start, Slots.enter, idle]

namespace Strand

variable {board : Switchboard} {duty : Duty} {issued : List Operation} {attempts : List Attempt}
  {questions : List (Guard × Channel)} {pass : Pass} {strand : Strand}

theorem isOver_done (duty : Duty) (board : Switchboard) (attempts : List Attempt) :
    (duty.done board attempts).isOver = true :=
  isOver_ofRunState _ _

@[simp]
theorem underWay_done (duty : Duty) (board : Switchboard) (attempts : List Attempt) :
    (duty.done board attempts).underWay = [] := by
  unfold Duty.done
  cases duty.failure <;> rfl

/-- A run behind which nothing is parked goes on with its pass, or has done its duty. -/
theorem tends_advance (board : Switchboard) (duty : Duty)
    (online : board.presence.isOnline duty.user = true)
    (held : board.slots.slot duty.user = .running none) (steady : pass.Steady)
    (carriesOut : pass.CarriesOut board.directory duty.user
      (board.presence.connections duty.user) duty.work issued attempts questions) :
    (ofRunState duty.failure (Run.advance ⟨⟨duty.user, true⟩, duty.work, pass⟩ board).2).Tends
        (Run.advance ⟨⟨duty.user, true⟩, duty.work, pass⟩ board).1 duty issued attempts
        questions ∧
      (ofRunState duty.failure
        (Run.advance ⟨⟨duty.user, true⟩, duty.work, pass⟩ board).2).underWay = pass.underWay := by
  cases finished : pass.outcome? with
  | none =>
      rw [Run.advance_of_going finished]
      exact ⟨.running online held ⟨steady, finished⟩ carriesOut, rfl⟩
  | some outcome =>
      have somebody := board.presence.connections_ne_nil online
      obtain ⟨idle, rfl, all, asked, rfl⟩ := carriesOut.outcome somebody finished
      have ends : Run.advance ⟨⟨duty.user, true⟩, duty.work, pass⟩ board =
          ({ board with slots := board.slots.set duty.user .idle },
            .over (duty.work.outcome (duty.report board attempts))) := by
        simp only [Run.advance, finished, Slots.next_of_running_none held]
        rfl
      rw [ends, idle]
      exact ⟨.done online all asked, underWay_done duty board attempts⟩

/-- A strand begins to do its duty; no failure is to be reported about a user who is offline. -/
theorem tends_submit (duty : Duty) (idle : board.slots.slot duty.user = .idle)
    (looked : board.presence.isOnline duty.user = true ∨ duty.failure = none) :
    (submit board duty.user duty.work duty.failure).2.Tends
      (submit board duty.user duty.work duty.failure).1 duty
      (submit board duty.user duty.work duty.failure).2.underWay [] [] := by
  rw [submit_eq, Switchboard.submit]
  split
  · rename_i online
    let entered : Switchboard := { board with slots := board.slots.set duty.user (.running none) }
    have started := Pass.start_board entered duty.user duty.work
    have held : (Pass.start entered duty.user duty.work).1.slots.slot duty.user =
        .running none := by
      rw [started]
      exact Slots.slot_set_self _ _ _
    have carriesOut := Pass.carriesOut_start entered duty.user duty.work
    obtain ⟨tends, underWay⟩ := tends_advance
      (Pass.start entered duty.user duty.work).1 duty (by rw [started]; exact online) held
      (Pass.steady_start entered duty.user duty.work) (by rw [started]; exact carriesOut)
    rw [Run.start_eq_advance duty.work idle, underWay]
    exact tends
  · rename_i offline
    rw [looked.resolve_left offline]
    exact .offline (Bool.not_eq_true _ ▸ offline)

/-- A user is looked at. -/
theorem tends_visit (idle : board.slots.slot duty.user = .idle)
    (demanded : (board.accounts duty.user).duty duty.user = duty) :
    (visit board duty.user).Tends board duty [] [] [] := by
  cases online : board.presence.isOnline duty.user with
  | true =>
      simp only [visit, online, if_true]
      exact .lookingUp online idle demanded
  | false =>
      simp only [visit, online, Bool.false_eq_true, if_false]
      exact .offline online

@[simp]
theorem underWay_visit (board : Switchboard) (user : UserKey) : (visit board user).underWay = [] := by
  unfold visit
  split <;> rfl

/-- The account store answers about a user. -/
theorem tends_resolve (online : board.presence.isOnline duty.user = true)
    (idle : board.slots.slot duty.user = .idle)
    (demanded : (board.accounts duty.user).duty duty.user = duty) :
    (resolve board duty.user).2.Tends (resolve board duty.user).1 duty
      (resolve board duty.user).2.underWay [] [] := by
  have called : resolve board duty.user = submit board duty.user duty.work duty.failure := by
    rw [resolve_eq, ← congrArg Duty.work demanded, ← congrArg Duty.failure demanded]
    rfl
  rw [called]
  exact tends_submit duty idle (.inl online)

/-- Nothing has been done for a user who is waiting to be looked at. -/
theorem Tends.of_queued {user : UserKey}
    (tends : (Strand.queued user).Tends board duty issued attempts questions) :
    user = duty.user ∧ board.slots.slot duty.user = .idle ∧
      (board.accounts duty.user).duty duty.user = duty ∧
      issued = [] ∧ attempts = [] ∧ questions = [] := by
  generalize same : Strand.queued user = strand at tends
  cases tends with
  | queued idle demanded =>
      cases same
      exact ⟨rfl, idle, demanded, rfl, rfl, rfl⟩
  | done online all asked =>
      have finished := isOver_done duty board attempts
      rw [← same] at finished
      cases finished
  | _ => cases same

/-- Whoever is being looked up is the user of the duty, and online. -/
theorem Tends.of_lookingUp {user : UserKey}
    (tends : (Strand.lookingUp user).Tends board duty issued attempts questions) :
    user = duty.user ∧ board.presence.isOnline duty.user = true := by
  generalize same : Strand.lookingUp user = strand at tends
  cases tends with
  | lookingUp online idle demanded =>
      cases same
      exact ⟨rfl, online⟩
  | done online all asked =>
      have finished := isOver_done duty board attempts
      rw [← same] at finished
      cases finished
  | _ => cases same

/-- The user whom a strand serves, as long as it is not over. -/
theorem Tends.subject? (tends : strand.Tends board duty issued attempts questions) :
    strand.subject? = some duty.user ∨ strand.isOver = true := by
  cases tends with
  | queued idle demanded => exact .inl rfl
  | offline offline => exact .inr rfl
  | lookingUp online idle demanded => exact .inl rfl
  | running online held steady carriesOut => exact .inl rfl
  | done online all asked => exact .inr (isOver_done duty board attempts)

/-- A strand does its duty in good order. -/
theorem Tends.steady (tends : strand.Tends board duty issued attempts questions) :
    strand.Steady := by
  cases tends with
  | queued idle demanded => exact .queued duty.user
  | offline offline => exact .finished rfl
  | lookingUp online idle demanded => exact .lookingUp duty.user
  | running online held steady carriesOut => exact .running duty.failure steady
  | done online all asked => exact .finished (isOver_done duty board attempts)

/-- A strand goes on with the answer at a spot. -/
theorem Tends.perform (tends : strand.Tends board duty issued attempts questions)
    (passage : Passage) (spot : Spot) :
    (strand.perform board passage spot).2.Tends (strand.perform board passage spot).1 duty
      (issued ++ issuedBetween strand.underWay (strand.perform board passage spot).2.underWay
        (board.attempt? passage spot (strand.inquiry? spot)))
      (attempts ++ (board.attempt? passage spot (strand.inquiry? spot)).toList)
      (questions ++ ((strand.inquiry? spot).bind Inquiry.question?).toList) := by
  have unmoved (same : strand.perform board passage spot = (board, strand))
      (unasked : strand.inquiry? spot = none) :
      (strand.perform board passage spot).2.Tends (strand.perform board passage spot).1 duty
        (issued ++ issuedBetween strand.underWay (strand.perform board passage spot).2.underWay
          (board.attempt? passage spot (strand.inquiry? spot)))
        (attempts ++ (board.attempt? passage spot (strand.inquiry? spot)).toList)
        (questions ++ ((strand.inquiry? spot).bind Inquiry.question?).toList) := by
    simpa [same, unasked] using tends
  have finished (finished : strand.isOver = true) :=
    unmoved (perform_of_isOver finished board passage spot) (inquiry?_of_isOver finished spot)
  cases tends with
  | queued idle demanded => exact unmoved rfl rfl
  | offline offline => exact finished rfl
  | lookingUp online idle demanded =>
      cases spot with
      | account =>
          have resolved := tends_resolve online idle demanded
          have idle_before : (Strand.lookingUp duty.user).underWay = [] := rfl
          simpa [Strand.perform, idle_before, inquiry?, Switchboard.attempt?, Inquiry.question?]
            using resolved
      | _ => exact unmoved rfl rfl
  | @running issued attempts questions pass online held steady carriesOut =>
      have performed := pass.perform_board board passage spot
      have later := carriesOut.perform passage spot
      obtain ⟨tends, underWay⟩ := tends_advance
        (pass.perform board passage spot).1 duty (by rw [performed]; exact online)
        (by rw [performed]; exact held) (steady.1.perform board passage spot)
        (by rw [performed]; exact later)
      simp only [Strand.perform, Run.perform_eq, underWay]
      exact tends
  | @done attempts questions online all asked => exact finished (isOver_done duty board attempts)

/-- A strand that is over has done its duty, or its user was offline. -/
theorem Tends.of_isOver (tends : strand.Tends board duty issued attempts questions)
    (finished : strand.isOver = true) :
    (board.presence.isOnline duty.user = false ∧ strand = .ended (.settled .noConnections)) ∨
      board.presence.isOnline duty.user = true ∧ strand = duty.done board attempts ∧
        issued = duty.operations board ∧
        (attempts.map Attempt.operation).Perm (duty.operations board) ∧
        questions.Perm (duty.work.questions board.directory) := by
  cases tends with
  | offline offline => exact .inl ⟨offline, rfl⟩
  | done online all asked => exact .inr ⟨online, rfl, rfl, all, asked⟩
  | _ => cases finished

/-- Nothing is done for a user who is offline. -/
theorem Tends.of_offline (tends : strand.Tends board duty issued attempts questions)
    (offline : board.presence.isOnline duty.user = false) :
    issued = [] ∧ attempts = [] ∧ questions = [] := by
  have never (online : board.presence.isOnline duty.user = true) : False := by
    rw [offline] at online
    cases online
  cases tends with
  | queued idle demanded => exact ⟨rfl, rfl, rfl⟩
  | offline offline => exact ⟨rfl, rfl, rfl⟩
  | lookingUp online idle demanded => exact ⟨rfl, rfl, rfl⟩
  | running online held steady carriesOut => exact (never online).elim
  | done online all asked => exact (never online).elim

/-- Whether the account store has yet to be asked about the user of a strand, or to answer. -/
def isUnanswered : Strand → Bool
  | queued _ => true
  | lookingUp _ => true
  | _ => false

@[simp]
theorem isUnanswered_ofRunState (failure : Option LookupError) (state : RunState) :
    (ofRunState failure state).isUnanswered = false := by
  cases state with
  | active run => rfl
  | «over» outcome => cases failure <;> rfl

@[simp]
theorem isUnanswered_resolve (board : Switchboard) (user : UserKey) :
    (resolve board user).2.isUnanswered = false := by
  rw [resolve_eq, submit_eq]
  exact isUnanswered_ofRunState _ _

/-- An answer that is not the account store's leaves it to that store to answer. -/
theorem Tends.isUnanswered_perform (tends : strand.Tends board duty issued attempts questions)
    (passage : Passage) {spot : Spot} (silent : strand = .lookingUp duty.user → spot ≠ .account) :
    (strand.perform board passage spot).2.isUnanswered = strand.isUnanswered := by
  cases tends with
  | queued idle demanded => rfl
  | offline offline => rfl
  | lookingUp online idle demanded =>
      cases spot with
      | account => exact absurd rfl (silent rfl)
      | _ => rfl
  | running online held steady carriesOut => exact isUnanswered_ofRunState _ _
  | @done attempts questions online all asked =>
      rw [perform_of_isOver (isOver_done duty board attempts)]

/-- While others do their duties, a strand is where it was. -/
theorem Tends.mono (tends : strand.Tends board duty issued attempts questions)
    {board' : Switchboard} (directory : board'.directory = board.directory)
    (presence : board'.presence = board.presence) (accounts : board'.accounts = board.accounts)
    (slot : board'.slots.slot duty.user = board.slots.slot duty.user) :
    strand.Tends board' duty issued attempts questions := by
  have operations : duty.operations board = duty.operations board' := by
    rw [Duty.operations, Duty.operations, directory, presence]
  have done (attempts : List Attempt) : duty.done board attempts = duty.done board' attempts := by
    rw [Duty.done, Duty.done, Duty.report, Duty.report, presence]
  cases tends with
  | queued idle demanded => exact .queued (slot ▸ idle) (accounts ▸ demanded)
  | offline offline => exact .offline (presence ▸ offline)
  | lookingUp online idle demanded =>
      exact .lookingUp (presence ▸ online) (slot ▸ idle) (accounts ▸ demanded)
  | running online held steady carriesOut =>
      exact .running (presence ▸ online) (slot ▸ held) steady
        (by rw [directory, presence]; exact carriesOut)
  | done online all asked =>
      rw [operations] at all ⊢
      rw [done]
      exact .done (presence ▸ online) all (directory ▸ asked)

end Strand

section Step

variable {duty : Duty} {issued : List Operation} {attempts : List Attempt}
  {questions : List (Guard × Channel)} {strand : Strand} {moment : Moment} {position : Nat}

/-- A strand comes one step further with its duty. -/
theorem Strand.Tends.next (moment : Moment)
    (tends : strand.Tends moment.system.board duty issued attempts questions)
    (found : moment.system.strands[position]? = some strand)
    (furthers : moment.event.Furthers position) :
    ∃ after, moment.next.strands[position]? = some after ∧
      after.Tends moment.next.board duty (issued ++ moment.issues position)
        (attempts ++ (moment.attemptOf? position).toList)
        (questions ++ (moment.questionOf? position).toList) := by
  have inside := (List.getElem?_eq_some_iff.1 found).1
  generalize event : moment.event = event at furthers
  cases furthers with
  | answer spot passage =>
      have next := Moment.next_of_perform event found
      have after : moment.next.strands[position]? =
          some (strand.perform moment.system.board passage spot).2 := by
        rw [next]
        exact List.getElem?_set_self inside
      refine ⟨_, after, ?_⟩
      rw [Moment.issues_eq found after, Moment.attemptOf?_of_perform event found,
        Moment.questionOf?_of_perform event found, next]
      exact tends.perform passage spot
  | visit =>
      have unattempted : moment.attemptOf? position = none :=
        Moment.attemptOf?_eq_none (by simp [event])
      have unasked : moment.questionOf? position = none :=
        Moment.questionOf?_eq_none (by simp [event])
      rw [unattempted, unasked]
      by_cases waiting : ∃ user, strand = .queued user
      · obtain ⟨user, rfl⟩ := waiting
        obtain ⟨rfl, idle, demanded, rfl, rfl, rfl⟩ := tends.of_queued
        have next := Moment.next_of_visit event found
        have after : moment.next.strands[position]? =
            some (Strand.visit moment.system.board duty.user) := by
          rw [next]
          exact List.getElem?_set_self inside
        refine ⟨_, after, ?_⟩
        rw [Moment.issues_eq found after, unattempted, Strand.underWay_visit,
          issuedBetween_to_nil, next]
        exact Strand.tends_visit idle demanded
      · have same := Moment.next_of_idle_visit event found (not_exists.1 waiting)
        have stays : moment.next.strands[position]? = some strand := by rw [same, found]
        refine ⟨strand, stays, ?_⟩
        rw [Moment.issues_eq_nil found stays unattempted, same]
        simpa using tends

/-- While another strand goes on with its own duty, a strand is where it was. -/
theorem Strand.Tends.next_of_other (moment : Moment)
    (tends : strand.Tends moment.system.board duty issued attempts questions)
    (found : moment.system.strands[position]? = some strand) {other : Nat} (apart : other ≠ position)
    (furthers : moment.event.Furthers other)
    (slot : moment.next.board.slots.slot duty.user = moment.system.board.slots.slot duty.user) :
    moment.next.strands[position]? = some strand ∧
      strand.Tends moment.next.board duty (issued ++ moment.issues position)
        (attempts ++ (moment.attemptOf? position).toList)
        (questions ++ (moment.questionOf? position).toList) := by
  have elsewhere : ∀ spot passage, moment.event ≠ .perform position spot passage := by
    rintro spot passage event
    have here := furthers.strand?_eq
    rw [event] at here
    exact apart (Option.some.inj here).symm
  have stays : moment.next.strands[position]? = some strand := by
    refine Moment.strand_next_of_strand?_ne found fun here => apart ?_
    exact Option.some.inj (furthers.strand?_eq.symm.trans here)
  have unattempted := Moment.attemptOf?_eq_none elsewhere
  have board := moment.system.board_step_of_furthers furthers
  refine ⟨stays, ?_⟩
  rw [Moment.issues_eq_nil found stays unattempted, unattempted,
    Moment.questionOf?_eq_none elsewhere]
  simp only [Option.toList_none, List.append_nil]
  refine tends.mono ?_ ?_ ?_ slot <;> rw [Moment.next, board]

/-- A strand leaves the slots of other users alone. -/
theorem Strand.Tends.slot_next (moment : Moment)
    (tends : strand.Tends moment.system.board duty issued attempts questions)
    (found : moment.system.strands[position]? = some strand)
    (furthers : moment.event.Furthers position) {other : UserKey} (apart : other ≠ duty.user) :
    moment.next.board.slots.slot other = moment.system.board.slots.slot other := by
  generalize event : moment.event = event at furthers
  cases furthers with
  | visit =>
      simp only [Moment.next, event, System.step]
      split <;> rfl
  | answer spot passage =>
      rw [Moment.next_of_perform event found]
      rcases tends.subject? with subject | finished
      · exact Strand.slot_perform_of_ne _ passage spot subject apart
      · rw [Strand.perform_of_isOver finished]
        rfl

/-- The account store answers about the user of a strand that looks the user up. -/
theorem Strand.Tends.of_lookedUp?
    (tends : strand.Tends moment.system.board duty issued attempts questions)
    (found : moment.system.strands[position]? = some strand)
    (furthers : moment.event.Furthers position) {user : UserKey}
    (lookedUp : moment.lookedUp? = some user) :
    user = duty.user ∧ moment.system.board.presence.isOnline user = true ∧
      strand.isUnanswered = true ∧
        ∀ after, moment.next.strands[position]? = some after → after.isUnanswered = false := by
  obtain ⟨other, passage, event, looking⟩ := Moment.lookedUp?_eq_some_iff.1 lookedUp
  obtain rfl : other = position := by
    have here := furthers.strand?_eq
    rw [event] at here
    exact Option.some.inj here
  cases looking.symm.trans found
  obtain ⟨rfl, online⟩ := tends.of_lookingUp
  refine ⟨rfl, online, rfl, fun after present => ?_⟩
  have inside := (List.getElem?_eq_some_iff.1 found).1
  rw [Moment.next_of_perform event found] at present
  cases (List.getElem?_set_self inside).symm.trans present
  exact Strand.isUnanswered_resolve _ _

/-- As long as it does not answer, a user who is online goes on waiting for its answer. -/
theorem Strand.Tends.isUnanswered_next
    (tends : strand.Tends moment.system.board duty issued attempts questions)
    (found : moment.system.strands[position]? = some strand)
    (furthers : moment.event.Furthers position)
    (online : moment.system.board.presence.isOnline duty.user = true)
    (silent : moment.lookedUp? = none) {after : Strand}
    (present : moment.next.strands[position]? = some after) :
    after.isUnanswered = strand.isUnanswered := by
  have inside := (List.getElem?_eq_some_iff.1 found).1
  generalize event : moment.event = event at furthers
  cases furthers with
  | answer spot passage =>
      rw [Moment.next_of_perform event found] at present
      cases (List.getElem?_set_self inside).symm.trans present
      refine tends.isUnanswered_perform passage ?_
      rintro rfl rfl
      rw [Moment.lookedUp?_eq_some_iff.2 ⟨position, passage, event, found⟩] at silent
      cases silent
  | visit =>
      by_cases waiting : ∃ user, strand = .queued user
      · obtain ⟨user, rfl⟩ := waiting
        obtain ⟨rfl, -⟩ := tends.of_queued
        rw [Moment.next_of_visit event found] at present
        cases (List.getElem?_set_self inside).symm.trans present
        simp only [Strand.visit, online, if_true]
        rfl
      · rw [Moment.next_of_idle_visit event found (not_exists.1 waiting)] at present
        cases found.symm.trans present
        rfl

end Step
end ChannelMembership
