import ChannelMembership.Proofs.Switchboard.Roster

/-!
# A permission change serves everybody once

A permission change concerns each user once, however often the user is listed, and its answers come in
key order.  The account store is asked once about each of them who is online, and about nobody else.
What is answered about a user depends on that user only: whether the user is online, and what the
account store knows.
-/

namespace ChannelMembership

/-- The users concerned by a change come in key order, each once. -/
theorem Audience.strict_members (audience : Audience) (presence : Presence) :
    Ascending.Strict (audience.members presence) := by
  cases audience with
  | listed users => exact strict_sortedSet users
  | everybody => exact strict_sortedSet _

/-- The ends of some strands, if all of them have ended. -/
def System.answers? (system : System) (positions : List Nat) : Option (List Conclusion) :=
  positions.mapM fun position => (system.strands[position]?).bind Strand.conclusion?

/-- The end of a permission change for one user. -/
structure Conclusion.Settles (board : Switchboard) (user : UserKey) (conclusion : Conclusion) :
    Prop where
  /-- A user who is offline has no connections. -/
  offline : board.presence.isOnline user = false → conclusion = .settled .noConnections
  /-- If the account store knows a principal of that very user, all connections have been reconciled
  with it. -/
  known : board.presence.isOnline user = true → ∀ principal,
    board.accounts user = .known principal → principal.user = some user →
      ∃ report, conclusion = .settled (.applied report) ∧
        report.Covers user (board.presence.connections user).length
          ((Work.reconcile principal).operations board.directory (board.presence.connections user))
  /-- If it knows no such user, all memberships have been revoked. -/
  missing : board.presence.isOnline user = true → board.accounts user = .missing →
    ∃ report, conclusion = .settled (.revoked report) ∧
      report.Covers user (board.presence.connections user).length
        ((board.presence.connections user).flatMap board.leaveAll)
  /-- A principal of somebody else, or of nobody, is reported. -/
  stranger : board.presence.isOnline user = true → ∀ principal,
    board.accounts user = .known principal → principal.user ≠ some user →
      conclusion = .refused (.lookup (LookupError.stranger user))
  /-- If the account store cannot answer, that is reported. -/
  failing : board.presence.isOnline user = true → ∀ reason,
    board.accounts user = .failing reason → conclusion = .refused (.lookup ⟨user, reason⟩)
  /-- If it answers with an error of its own, that is handed on as it is. -/
  erring : board.presence.isOnline user = true → ∀ error,
    board.accounts user = .erring error → conclusion = .refused (.lookup error)

theorem Conclusion.settles_offline {board : Switchboard} {user : UserKey}
    (offline : board.presence.isOnline user = false) :
    (settled .noConnections).Settles board user := by
  refine ⟨fun _ => rfl, ?_, ?_, ?_, ?_, ?_⟩ <;> simp [offline]

/-- Whoever has done the duty that arises from the account store's answer has settled the user. -/
theorem Conclusion.settles_done {board : Switchboard} {user : UserKey} {attempts : List Attempt}
    (online : board.presence.isOnline user = true)
    (all : (attempts.map Attempt.operation).Perm
      (((board.accounts user).duty user).operations board)) :
    ∃ conclusion, ((board.accounts user).duty user).done board attempts = .ended conclusion ∧
      conclusion.Settles board user := by
  cases account : board.accounts user with
  | missing =>
      rw [account] at all
      refine ⟨_, rfl, by simp [online], by simp [account], fun _ _ => ⟨_, rfl, ?_⟩,
        by simp [account], by simp [account], by simp [account]⟩
      rw [← Work.operations_revoke]
      exact Report.covers_tell all user _
  | failing reason =>
      refine ⟨_, rfl, by simp [online], by simp [account], by simp [account], by simp [account],
        fun _ reason' failing => ?_, by simp [account]⟩
      cases account.symm.trans failing
      rfl
  | erring error =>
      refine ⟨_, rfl, by simp [online], by simp [account], by simp [account], by simp [account],
        by simp [account], fun _ error' erring => ?_⟩
      cases account.symm.trans erring
      rfl
  | known principal =>
      rw [account] at all
      by_cases own : principal.user = some user
      · have duty : (Account.known principal).duty user = ⟨user, .reconcile principal, none⟩ := by
          simp [Account.duty, Account.demand, own]
        rw [duty] at all ⊢
        refine ⟨_, rfl, by simp [online], fun _ principal' known _ => ?_, by simp [account],
          fun _ principal' known foreign => ?_, by simp [account], by simp [account]⟩
        · cases account.symm.trans known
          exact ⟨_, rfl, Report.covers_tell all user _⟩
        · cases account.symm.trans known
          exact absurd own foreign
      · have duty : (Account.known principal).duty user =
            ⟨user, .revoke, some (LookupError.stranger user)⟩ := by
          simp [Account.duty, Account.demand, own]
        rw [duty]
        refine ⟨_, rfl, by simp [online], fun _ principal' known mine => ?_, by simp [account],
          fun _ _ _ _ => rfl, by simp [account], by simp [account]⟩
        cases account.symm.trans known
        exact absurd mine own

/-- Where each member of a list has an answer, all answers can be read off in order. -/
theorem exists_entries {members : List UserKey} {first : Nat} {answer? : Nat → Option Conclusion}
    {settles : UserKey → Conclusion → Prop}
    (each : ∀ index user, members[index]? = some user →
      ∃ conclusion, answer? (first + index) = some conclusion ∧ settles user conclusion) :
    ∃ entries : List (UserKey × Conclusion), entries.map Prod.fst = members ∧
      (List.range' first members.length).mapM answer? = some (entries.map Prod.snd) ∧
      ∀ entry ∈ entries, settles entry.1 entry.2 := by
  induction members generalizing first with
  | nil => exact ⟨[], rfl, rfl, nofun⟩
  | cons user rest induction =>
      obtain ⟨conclusion, answered, settled⟩ := each 0 user rfl
      -- the strands of the rest begin one position later
      obtain ⟨entries, users, answers, all⟩ := @induction (first + 1) fun index other listed => by
        rw [Nat.add_assoc, Nat.add_comm 1]
        exact each (index + 1) other listed
      refine ⟨(user, conclusion) :: entries, by rw [List.map_cons, users], ?_, ?_⟩
      · rw [List.length_cons, List.range'_succ, List.mapM_cons, answers]
        rw [Nat.add_zero] at answered
        rw [answered]
        rfl
      · exact List.forall_mem_cons.2 ⟨settled, all⟩

/-- How a permission change goes while nothing else happens. -/
structure System.ServesOnce (system : System) (audience : Audience) (rest : List Event) : Prop where
  /-- The users concerned are served in ascending key order, none of them twice. -/
  strict : Ascending.Strict (audience.members system.board.presence)
  /-- They are the users that are listed, or those that have a connection. -/
  mem_members_iff : ∀ user, user ∈ audience.members system.board.presence ↔
    match audience with
    | .listed users => user ∈ users
    | .everybody => ∃ connection, system.board.presence.contains user connection = true
  /-- One strand is begun for each of them. -/
  begun : (system.step (.submit (.change audience))).strands =
    system.strands ++ (audience.members system.board.presence).map .queued
  /-- The account store never has to answer about a user twice, nor about one who is offline or whom
  the change does not concern. -/
  asked : ((system.moments (.submit (.change audience) :: rest)).filterMap
      Moment.lookedUp?).Nodup ∧
    ∀ user ∈ (system.moments (.submit (.change audience) :: rest)).filterMap Moment.lookedUp?,
      user ∈ audience.members system.board.presence ∧
        system.board.presence.isOnline user = true
  /-- For a user who is offline no guard is asked, and nothing is issued or attempted. -/
  offline : ∀ index user, (audience.members system.board.presence)[index]? = some user →
    system.board.presence.isOnline user = false →
      issuedBy (system.strands.length + index)
          (system.moments (.submit (.change audience) :: rest)) = [] ∧
        attemptsOf (system.strands.length + index)
          (system.moments (.submit (.change audience) :: rest)) = [] ∧
        questionsOf (system.strands.length + index)
          (system.moments (.submit (.change audience) :: rest)) = []
  /-- When all strands have come to their end, the account store has answered about everybody who is
  online, and there is one answer about each user concerned, in order. -/
  settled : (∀ index < (audience.members system.board.presence).length,
      (system.run (.submit (.change audience) :: rest)).Finished (system.strands.length + index)) →
    ((system.moments (.submit (.change audience) :: rest)).filterMap Moment.lookedUp?).Perm
        ((audience.members system.board.presence).filter system.board.presence.isOnline) ∧
      ∃ entries : List (UserKey × Conclusion),
        entries.map Prod.fst = audience.members system.board.presence ∧
        (system.run (.submit (.change audience) :: rest)).answers?
            (List.range' system.strands.length
              (audience.members system.board.presence).length) =
          some (entries.map Prod.snd) ∧
        ∀ entry ∈ entries, entry.2.Settles system.board entry.1
  /-- They can always be brought to their end. -/
  finishes : ∃ more,
    (∀ event ∈ more, ∃ index < (audience.members system.board.presence).length,
      event.Advances (system.strands.length + index)) ∧
    ∀ index < (audience.members system.board.presence).length,
      (system.run (.submit (.change audience) :: rest ++ more)).Finished
        (system.strands.length + index)

section Change

variable {system : System} {audience : Audience} {rest : List Event}

/-- Whoever has a strand is concerned by the change. -/
theorem System.Answered.mem_members {after : System} {first : Nat} {user : UserKey}
    (answered : after.Answered first ((Request.change audience).duties system.board) user) :
    user ∈ audience.members system.board.presence := by
  obtain ⟨index, duty, -, assigned, rfl, -⟩ := answered
  obtain ⟨user, listed, rfl⟩ := List.mem_map.1 (List.mem_of_getElem? assigned)
  exact listed

/-- At first the account store has answered about nobody. -/
theorem System.asked_change (system : System) (audience : Audience) :
    (system.step (.submit (.change audience))).Asked system.strands.length
      ((Request.change audience).duties system.board) [] := by
  refine ⟨List.nodup_nil, fun user => iff_of_false List.not_mem_nil ?_⟩
  rintro ⟨-, index, duty, strand, assigned, rfl, found, answered⟩
  simp only [Request.duties, List.getElem?_map, Option.map_eq_some_iff] at assigned
  obtain ⟨user, listed, rfl⟩ := assigned
  cases (system.queued_of_change listed).symm.trans found
  cases answered

variable (idle : ∀ user ∈ audience.members system.board.presence,
    system.board.slots.slot user = .idle)
  (secluded : Secluded system.strands.length (audience.members system.board.presence).length rest)

include secluded

/-- Nobody comes or goes. -/
theorem System.presence_run_change :
    (system.run (.submit (.change audience) :: rest)).board.presence = system.board.presence := by
  rw [run_cons, board_run_of_secluded _ secluded]
  rfl

include idle

/-- Each user is served as the account store's answer demands. -/
theorem System.tended_run_change :
    (system.run (.submit (.change audience) :: rest)).Tended system.strands.length
      ((Request.change audience).duties system.board)
      (system.moments (.submit (.change audience) :: rest)) :=
  system.tended_run (.change audience) (Request.idle_duties_change idle)
    (by rwa [Request.length_duties_change])

theorem System.tends_run_change {index : Nat} {user : UserKey}
    (listed : (audience.members system.board.presence)[index]? = some user) :
    ∃ strand,
      (system.run (.submit (.change audience) :: rest)).strands[system.strands.length + index]? =
        some strand ∧
      strand.Tends
        { system.board with
          slots := (system.run (.submit (.change audience) :: rest)).board.slots }
        ((system.board.accounts user).duty user)
        (issuedBy (system.strands.length + index)
          (system.moments (.submit (.change audience) :: rest)))
        (attemptsOf (system.strands.length + index)
          (system.moments (.submit (.change audience) :: rest)))
        (questionsOf (system.strands.length + index)
          (system.moments (.submit (.change audience) :: rest))) :=
  system.tends_run (.change audience) (Request.idle_duties_change idle)
    (by rwa [Request.length_duties_change]) (Request.duty_of_change listed)

/-- The account store answers once about each user of the change who is online. -/
theorem System.asked_run_change :
    (system.run (.submit (.change audience) :: rest)).Asked system.strands.length
      ((Request.change audience).duties system.board)
      ((system.moments (.submit (.change audience) :: rest)).filterMap Moment.lookedUp?) :=
  (system.asked_change audience).run
    (system.tended_submit _ (Request.idle_duties_change idle)) (system.duties_distinct _)
    (by rwa [Request.length_duties_change])

/-- The strand of a user that has come to its end has settled the user. -/
theorem System.settles_run_change {index : Nat} {user : UserKey}
    (listed : (audience.members system.board.presence)[index]? = some user)
    (finished : (system.run (.submit (.change audience) :: rest)).Finished
      (system.strands.length + index)) :
    ∃ conclusion,
      (system.run (.submit (.change audience) :: rest)).strands[system.strands.length + index]? =
        some (.ended conclusion) ∧ conclusion.Settles system.board user := by
  obtain ⟨strand, found, tends⟩ := tends_run_change idle secluded listed
  obtain ⟨strand', found', isOver⟩ := finished
  cases found.symm.trans found'
  rcases tends.of_isOver isOver with ⟨offline, rfl⟩ | ⟨online, rfl, -, all, -⟩
  · exact ⟨_, found, Conclusion.settles_offline offline⟩
  · obtain ⟨conclusion, same, settles⟩ :
        ∃ conclusion, ((system.board.accounts user).duty user).done system.board _ =
            .ended conclusion ∧ conclusion.Settles system.board user :=
      Conclusion.settles_done online all
    exact ⟨conclusion, found.trans (congrArg some same), settles⟩

/-- When all strands have come to their end, the account store has answered about everybody who is
online. -/
theorem System.lookedUp_run_change
    (finished : ∀ index < (audience.members system.board.presence).length,
      (system.run (.submit (.change audience) :: rest)).Finished (system.strands.length + index)) :
    ((system.moments (.submit (.change audience) :: rest)).filterMap Moment.lookedUp?).Perm
      ((audience.members system.board.presence).filter system.board.presence.isOnline) := by
  have asked := asked_run_change idle secluded
  refine (List.perm_ext_iff_of_nodup asked.once ((audience.nodup_members _).filter _)).2
    fun user => ?_
  rw [asked.mem_iff, presence_run_change secluded, List.mem_filter, and_comm]
  refine and_congr_left fun _ => ⟨Answered.mem_members, fun member => ?_⟩
  obtain ⟨index, listed⟩ := List.mem_iff_getElem?.1 member
  obtain ⟨conclusion, found, -⟩ := settles_run_change idle secluded listed
    (finished index (List.getElem?_eq_some_iff.1 listed).1)
  exact ⟨index, _, _, Request.duty_of_change listed, rfl, found, rfl⟩

end Change

/-- A permission change serves every user whom it concerns once, and nobody is passed over because
another user is offline or cannot be looked up. -/
theorem change_serves_everybody_once {system : System} {audience : Audience} {rest : List Event}
    (idle : ∀ user ∈ audience.members system.board.presence,
      system.board.slots.slot user = .idle)
    (secluded : Secluded system.strands.length (audience.members system.board.presence).length
      rest) :
    system.ServesOnce audience rest := by
  have asked := System.asked_run_change idle secluded
  refine ⟨audience.strict_members _, fun user => ?_, rfl, ⟨asked.once, fun user member => ?_⟩,
    fun index user listed offline => ?_, fun finished => ⟨?_, ?_⟩, ?_⟩
  · cases audience with
    | listed users => exact mem_sortedSet user users
    | everybody =>
        exact (system.board.presence.mem_users user).trans (system.board.presence.isOnline_iff user)
  · obtain ⟨online, answered⟩ := (asked.mem_iff user).1 member
    exact ⟨answered.mem_members, System.presence_run_change secluded ▸ online⟩
  · obtain ⟨strand, -, tends⟩ := System.tends_run_change idle secluded listed
    exact tends.of_offline offline
  · exact System.lookedUp_run_change idle secluded finished
  · refine exists_entries fun index user listed => ?_
    obtain ⟨conclusion, found, settles⟩ := System.settles_run_change idle secluded listed
      (finished index (List.getElem?_eq_some_iff.1 listed).1)
    exact ⟨conclusion, by rw [found]; rfl, settles⟩
  · obtain ⟨more, advances, finished⟩ := (System.tended_run_change idle secluded).exists_finish
    rw [Request.length_duties_change] at advances finished
    refine ⟨more, advances, fun index inside => ?_⟩
    rw [System.run_append]
    exact finished index inside

/-- An editor and a third user are connected; the account store cannot answer about the third one. -/
def troubledNewsroom : System :=
  quietNewsroom.run
    [.register firstUser ⟨"c1"⟩, .register thirdUser ⟨"c3"⟩, .setAccount firstUser (.known editor),
      .setAccount thirdUser (.failing "store down")]

/-- A list of users in which two are repeated and one is offline. -/
def troubledAudience : Audience := .listed [thirdUser, firstUser, secondUser, thirdUser, firstUser]

/-- The third user is looked at first, and a leave fails, before the editor is served. -/
def troubledAnswers : List Event :=
  [.visit 2, .perform 2 .account .through, .visit 1, .visit 0, .perform 0 .account .through,
    .perform 2 (.operation (.leave ⟨"c3"⟩ ⟨"news"⟩)) (.blocked (.failed "lost")),
    .perform 0 (.question ⟨"news"⟩) .through,
    .perform 0 (.operation (.join ⟨"c1"⟩ ⟨"news"⟩)) .through]

theorem three_users_served_in_newsroom :
    ∃ entries : List (UserKey × Conclusion),
      entries.map Prod.fst = [firstUser, secondUser, thirdUser] ∧
      entries.map Prod.snd =
        [.settled (.applied ⟨some firstUser, 1, [.join ⟨"c1"⟩ ⟨"news"⟩], []⟩),
          .settled .noConnections, .refused (.lookup ⟨thirdUser, "store down"⟩)] ∧
      (∀ entry ∈ entries, entry.2.Settles troubledNewsroom.board entry.1) ∧
      ((troubledNewsroom.moments (.submit (.change troubledAudience) :: troubledAnswers)).filterMap
        Moment.lookedUp?).Perm [firstUser, thirdUser] := by
  have members : troubledAudience.members troubledNewsroom.board.presence =
      [firstUser, secondUser, thirdUser] := by decide +kernel
  have idle : ∀ user ∈ troubledAudience.members troubledNewsroom.board.presence,
      troubledNewsroom.board.slots.slot user = .idle := by decide +kernel
  have secluded : Secluded troubledNewsroom.strands.length
      (troubledAudience.members troubledNewsroom.board.presence).length troubledAnswers := by
    rw [members]
    simp only [Secluded, troubledAnswers, List.forall_mem_cons, List.length_cons, List.length_nil]
    exact ⟨⟨2, by decide, .visit⟩, ⟨2, by decide, .answer _ _⟩, ⟨1, by decide, .visit⟩,
      ⟨0, by decide, .visit⟩, ⟨0, by decide, .answer _ _⟩, ⟨2, by decide, .answer _ _⟩,
      ⟨0, by decide, .answer _ _⟩, ⟨0, by decide, .answer _ _⟩, nofun⟩
  have serves := change_serves_everybody_once idle secluded
  have finished : ∀ index < (troubledAudience.members troubledNewsroom.board.presence).length,
      (troubledNewsroom.run (.submit (.change troubledAudience) :: troubledAnswers)).Finished
        (troubledNewsroom.strands.length + index) := by
    rw [members]
    exact fun
      | 0, _ => ⟨_, rfl, rfl⟩
      | 1, _ => ⟨_, rfl, rfl⟩
      | 2, _ => ⟨_, rfl, rfl⟩
  obtain ⟨asked, entries, users, answers, settles⟩ := serves.settled finished
  have online : [firstUser, secondUser, thirdUser].filter troubledNewsroom.board.presence.isOnline =
      [firstUser, thirdUser] := by decide +kernel
  rw [members] at users asked answers
  rw [online] at asked
  exact ⟨entries, users, Option.some.inj (answers.symm.trans rfl), settles, asked⟩

end ChannelMembership
