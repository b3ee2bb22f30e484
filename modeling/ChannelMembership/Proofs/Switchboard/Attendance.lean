import ChannelMembership.Proofs.Switchboard.Assignment
import ChannelMembership.Proofs.Switchboard.Strand

/-!
# Attending to a user

A strand attends to one user from its beginning to its end.  While it does so it has some of the
user's connections in its care; all others, and at the end those too, are in exactly the channels
that are granted to the principal in force for them, except for excused memberships.
-/

namespace ChannelMembership

/-- What is known about the principal in force for a connection. -/
inductive Current where
  /-- A permission change concerns the user, and the account store has yet to answer. -/
  | awaited
  /-- There is none any more. -/
  | nobody
  /-- This one was presented last. -/
  | known (principal : Principal)
  deriving DecidableEq

/-- The work that brings memberships in line with the principal in force, once it is known. -/
def Current.work? : Current → Option Work
  | awaited => none
  | nobody => some .revoke
  | known principal => some (.reconcile principal)

/-- What the account store's answer puts in force for the connections of a user: a principal of that
very user, and nobody else's. -/
def Account.current (user : UserKey) : Account → Current
  | known principal => if principal.user = some user then .known principal else .nobody
  | _ => .nobody

theorem Account.work?_current (user : UserKey) (account : Account) :
    (account.current user).work? = some (account.demand user).1 := by
  cases account with
  | known principal =>
      by_cases same : principal.user = some user <;> simp [demand, current, same, Current.work?]
  | missing => rfl
  | failing reason => rfl
  | erring error => rfl

/-- The principal in force for a connection is known, and the connection is in exactly the known
channels that are granted to it, except for excused memberships. -/
def Switchboard.Exact (board : Switchboard) (excused : Connection → Channel → Prop)
    (current : Connection → Current) (connection : Connection) : Prop :=
  ∃ work, (current connection).work? = some work ∧
    work.Settled board.directory board.groups excused [connection]

section Exact

variable {board board' : Switchboard} {excused excused' : Connection → Channel → Prop}
  {current current' : Connection → Current} {connection : Connection}

theorem Switchboard.Exact.mono (settled : board.Exact excused current connection)
    (directory : board'.directory = board.directory)
    (same : current' connection = current connection)
    (kept : ∀ channel, excused connection channel → excused' connection channel)
    (frame : ∀ channel, excused' connection channel ∨
      board'.groups.isMember channel connection = board.groups.isMember channel connection) :
    board'.Exact excused' current' connection := by
  obtain ⟨work, newest, settled⟩ := settled
  have after : Work.Settled board.directory board'.groups excused' [connection] _ :=
    Work.Settled.mono settled
      (fun other member channel excuse => by
        cases List.mem_singleton.1 member
        exact kept channel excuse)
      (fun other member channel => by
        cases List.mem_singleton.1 member
        exact frame channel)
  refine ⟨work, by rwa [same], ?_⟩
  rwa [directory]

theorem Work.Settled.exact {connections : List Connection} {work : Work}
    (settled : work.Settled board.directory board.groups excused connections)
    (member : connection ∈ connections)
    (newest : (current connection).work? = some work) :
    board.Exact excused current connection := by
  refine ⟨work, newest, fun other same channel governed => ?_⟩
  cases List.mem_singleton.1 same
  exact settled connection member channel governed

end Exact

namespace Strand

/-- The user to whom the strand attends. -/
def subject? : Strand → Option UserKey
  | queued user => some user
  | lookingUp user => some user
  | running run _ => some run.ticket.user
  | assigning user _ _ => some user
  | leaving batch _ => batch.report.user
  | _ => none

/-- Whether the strand attends to nobody: it deals with notices, or it is over. -/
def isAside : Strand → Bool
  | routing _ => true
  | circulating _ => true
  | strand => strand.isOver

/-- The connection that the strand sets up under a time limit, and its user. -/
def settingUp? : Strand → Option (UserKey × Connection)
  | assigning user assignment true => some (user, assignment.connection)
  | _ => none

/-- A strand attends to a user: the connections in its care wait for a principal or are on the way to its
memberships, and the user's other connections have them. -/
inductive Attends (board : Switchboard) (excused : Connection → Channel → Prop)
    (current : Connection → Current) (user : UserKey) : Strand → Prop
  /-- The user waits to be looked at. -/
  | queued (awaited : ∀ connection, board.presence.contains user connection = true →
      current connection = .awaited) :
    Attends board excused current user (queued user)
  /-- The account store is asked about the user. -/
  | lookingUp (awaited : ∀ connection, board.presence.contains user connection = true →
      current connection = .awaited) :
    Attends board excused current user (lookingUp user)
  /-- A run has all connections in its care. -/
  | running {run : Run} {failure : Option LookupError} {work : Work}
    (stands : (RunState.active run).Stands board excused user work
      (board.presence.connections user) none)
    (newest : ∀ connection, board.presence.contains user connection = true →
      (current connection).work? = some work) :
    Attends board excused current user (running run failure)
  /-- A connection is set up. -/
  | assigning {assignment : Assignment} {principal : Principal} {connection : Connection}
    (registered : board.presence.contains user connection = true)
    (newest : current connection = .known principal)
    (serves : assignment.Serves board.directory board.groups excused user principal connection)
    (others : ∀ other, other ≠ connection → board.presence.contains user other = true →
      board.Exact excused current other) :
    Attends board excused current user (assigning user assignment true)
  /-- A connection that was not set up in time leaves every known channel. -/
  | leaving {batch : Batch} {connection : Connection}
    (registered : board.presence.contains user connection = true)
    (newest : current connection = .nobody)
    (serves : batch.Serves board.groups excused user 1
      (Work.revoke.operations board.directory [connection]))
    (others : ∀ other, other ≠ connection → board.presence.contains user other = true →
      board.Exact excused current other) :
    Attends board excused current user (leaving batch true)
  /-- Nothing is left to do. -/
  | done {strand : Strand} (finished : strand.isOver = true)
    (settled : ∀ connection, board.presence.contains user connection = true →
      board.Exact excused current connection) :
    Attends board excused current user strand

theorem subject?_of_isAside {strand : Strand} (aside : strand.isAside = true) :
    strand.subject? = none := by
  cases strand <;> first | rfl | cases aside

theorem isAside_of_isOver {strand : Strand} (finished : strand.isOver = true) :
    strand.isAside = true := by
  cases strand <;> first | rfl | cases finished

theorem subject?_of_isOver {strand : Strand} (finished : strand.isOver = true) :
    strand.subject? = none :=
  subject?_of_isAside (isAside_of_isOver finished)

theorem subject?_of_runner? {strand : Strand} {user : UserKey}
    (serves : strand.runner? = some user) : strand.subject? = some user := by
  cases strand <;> first | exact serves | cases serves

theorem subject?_of_settingUp? {strand : Strand} {user : UserKey} {connection : Connection}
    (setup : strand.settingUp? = some (user, connection)) : strand.subject? = some user := by
  cases strand with
  | assigning other assignment limited =>
      cases limited with
      | false => cases setup
      | true =>
          cases setup
          rfl
  | _ => cases setup

/-- A strand that attends to nobody goes on like that, and it attempts nothing. -/
theorem perform_of_isAside {strand : Strand} (aside : strand.isAside = true) (board : Switchboard)
    (passage : Passage) (spot : Spot) :
    (strand.perform board passage spot).2.isAside = true ∧
      (strand.perform board passage spot).1.slots = board.slots ∧
        board.attempt? passage spot (strand.inquiry? spot) = none := by
  have slots : strand.runner? = none → (∀ user, strand ≠ .lookingUp user) → _ :=
    slots_perform board passage spot
  cases strand with
  | routing notice =>
      refine ⟨?_, slots rfl (by simp), ?_⟩
      · cases spot with
        | publication =>
            simp only [perform]
            split <;> rfl
        | _ => rfl
      · cases spot <;> rfl
  | circulating circular =>
      refine ⟨?_, slots rfl (by simp), ?_⟩
      · cases spot with
        | copy connection =>
            simp only [perform, ofCircular]
            split <;> rfl
        | _ => rfl
      · cases spot <;> rfl
  | ended conclusion => exact ⟨rfl, slots rfl (by simp), by simp [inquiry?]⟩
  | dropped => exact ⟨rfl, slots rfl (by simp), by simp [inquiry?]⟩
  | _ => cases aside

theorem expire_of_isAside {strand : Strand} (aside : strand.isAside = true) (board : Switchboard) :
    strand.expire board = (board, strand) := by
  cases strand <;> first | rfl | cases aside

variable {board board' : Switchboard} {excused excused' : Connection → Channel → Prop}
  {current current' : Connection → Current} {user : UserKey} {strand : Strand}

/-- The slots of other users are left alone. -/
theorem slot_perform_of_ne (board : Switchboard) (passage : Passage) (spot : Spot)
    (subject : strand.subject? = some user) {other : UserKey} (apart : other ≠ user) :
    (strand.perform board passage spot).1.slots.slot other = board.slots.slot other := by
  have quiet (idle : strand.runner? = none) (known : ∀ user, strand ≠ .lookingUp user) :
      (strand.perform board passage spot).1.slots.slot other = board.slots.slot other := by
    rw [slots_perform board passage spot idle known]
  cases strand with
  | running run failure =>
      cases subject
      exact run.slot_perform_of_ne board passage spot apart
  | lookingUp looked =>
      cases subject
      cases spot with
      | account =>
          simp only [perform]
          rw [resolve_eq, submit_eq, Switchboard.submit]
          split
          · exact Run.slot_start_of_ne board _ apart
          · rfl
      | _ => rfl
  | _ => exact quiet rfl (by simp)

theorem Attends.subject? (attends : strand.Attends board excused current user) :
    strand.subject? = some user ∨ strand.isOver = true := by
  cases attends with
  | queued awaited => exact .inl rfl
  | lookingUp awaited => exact .inl rfl
  | running stands newest =>
      cases stands
      exact .inl rfl
  | assigning registered newest serves others => exact .inl rfl
  | leaving registered newest serves others => exact .inl serves.user_eq
  | done finished settled => exact .inr finished

/-- A strand that is over leaves everything settled. -/
theorem Attends.settled (attends : strand.Attends board excused current user)
    (finished : strand.isOver = true) (connection : Connection)
    (registered : board.presence.contains user connection = true) :
    board.Exact excused current connection := by
  cases attends with
  | done _ settled => exact settled connection registered
  | _ => cases finished

/-- Only operations on the user's connections are attempted. -/
theorem Attends.attempts (attends : strand.Attends board excused current user)
    {passage : Passage} {spot : Spot} {attempt : Attempt}
    (attempted : board.attempt? passage spot (strand.inquiry? spot) = some attempt) :
    board.presence.contains user attempt.operation.connection = true := by
  obtain ⟨spot_eq, asked, -⟩ := Switchboard.attempt?_eq_some attempted
  cases attends with
  | queued awaited => cases asked
  | lookingUp awaited =>
      subst spot_eq
      cases asked
  | running stands newest =>
      cases stands with
      | active held going serves =>
          have issued := serves.attempts attempted
          exact (Presence.mem_connections _ _ _).1 ((Work.mem_operations _ _).1 issued).1
  | assigning registered newest serves others =>
      obtain ⟨here, -⟩ := (Directory.mem_joins _).1 (serves.attempts attempted)
      rwa [here]
  | leaving registered newest serves others =>
      subst spot_eq
      have issued := Batch.Serves.attempts serves attempted
      have here := ((Work.mem_operations _ _).1 issued).1
      rwa [List.mem_singleton.1 here]
  | done finished settled =>
      rw [inquiry?_of_isOver finished] at asked
      cases asked

/-- What happens elsewhere does not matter, as long as the user's memberships stay or are excused. -/
theorem Attends.mono (attends : strand.Attends board excused current user)
    (directory : board'.directory = board.directory)
    (presence : board'.presence = board.presence)
    (slot : board'.slots.slot user = board.slots.slot user)
    (same : ∀ connection, board.presence.contains user connection = true →
      current' connection = current connection)
    (kept : ∀ connection, board.presence.contains user connection = true →
      ∀ channel, excused connection channel → excused' connection channel)
    (frame : ∀ connection, board.presence.contains user connection = true →
      ∀ channel, excused' connection channel ∨
        board'.groups.isMember channel connection = board.groups.isMember channel connection) :
    strand.Attends board' excused' current' user := by
  have settle {connection : Connection}
      (registered : board'.presence.contains user connection = true)
      (settled : board.Exact excused current connection) :
      board'.Exact excused' current' connection := by
    rw [presence] at registered
    exact settled.mono directory (same connection registered) (kept connection registered)
      (frame connection registered)
  cases attends with
  | queued awaited =>
      refine .queued fun connection registered => ?_
      rw [presence] at registered
      exact (same connection registered).trans (awaited connection registered)
  | lookingUp awaited =>
      refine .lookingUp fun connection registered => ?_
      rw [presence] at registered
      exact (same connection registered).trans (awaited connection registered)
  | done finished settled =>
      exact .done finished fun connection registered =>
        settle registered (settled connection (presence ▸ registered))
  | @running run failure work stands newest =>
      have stands' : (RunState.active run).Stands board' excused' user work
          (board.presence.connections user) none :=
        stands.mono directory slot
          (fun connection member => kept connection ((Presence.mem_connections _ _ _).1 member))
          (fun connection member => frame connection ((Presence.mem_connections _ _ _).1 member))
      rw [← presence] at stands'
      refine .running stands' fun connection registered => ?_
      rw [presence] at registered
      rw [same connection registered]
      exact newest connection registered
  | @assigning assignment principal connection registered newest serves others =>
      have serves' : assignment.Serves board'.directory board'.groups excused' user principal
          connection := by
        rw [directory]
        exact serves.mono (kept connection registered) (frame connection registered)
      refine .assigning (presence ▸ registered) ?_ serves' fun other apart present => ?_
      · rw [same connection registered]
        exact newest
      · exact settle present (others other apart (presence ▸ present))
  | @leaving batch connection registered newest serves others =>
      have here (operation : Operation)
          (issued : operation ∈ Work.revoke.operations board.directory [connection]) :
          operation.connection = connection :=
        List.mem_singleton.1 ((Work.mem_operations _ _).1 issued).1
      have serves' : batch.Serves board'.groups excused' user 1
          (Work.revoke.operations board'.directory [connection]) := by
        rw [directory]
        refine serves.mono (fun operation issued => ?_) fun operation issued => ?_
        · rw [here operation issued]
          exact kept connection registered operation.channel
        · rw [here operation issued]
          exact frame connection registered operation.channel
      refine .leaving (presence ▸ registered) ?_ serves' fun other apart present => ?_
      · rw [same connection registered]
        exact newest
      · exact settle present (others other apart (presence ▸ present))

theorem attends_ofRunState {state : RunState} {work : Work} (failure : Option LookupError)
    (stands : state.Stands board excused user work (board.presence.connections user) none)
    (newest : ∀ connection, board.presence.contains user connection = true →
      (current connection).work? = some work) :
    (ofRunState failure state).Attends board excused current user := by
  cases state with
  | active run => exact .running stands newest
  | «over» outcome =>
      refine .done (ofRunState_over failure outcome) fun connection registered => ?_
      cases stands with
      | concluded idle closes settled =>
          exact settled.exact ((Presence.mem_connections _ _ _).2 registered)
            (newest connection registered)

theorem attends_ofAssignment {assignment : Assignment} {principal : Principal}
    {connection : Connection} (registered : board.presence.contains user connection = true)
    (newest : current connection = .known principal)
    (serves : assignment.Serves board.directory board.groups excused user principal connection)
    (others : ∀ other, other ≠ connection → board.presence.contains user other = true →
      board.Exact excused current other) :
    (ofAssignment user assignment true).Attends board excused current user := by
  unfold ofAssignment
  cases done : assignment.report? with
  | none => exact .assigning registered newest serves others
  | some report =>
      refine .done rfl fun other present => ?_
      by_cases here : other = connection
      · subst here
        obtain ⟨-, settled⟩ := serves.closes done
        exact settled.exact List.mem_cons_self (by rw [newest]; rfl)
      · exact others other here present

theorem attends_ofLeaves {batch : Batch} {connection : Connection}
    (registered : board.presence.contains user connection = true)
    (newest : current connection = .nobody)
    (serves : batch.Serves board.groups excused user 1
      (Work.revoke.operations board.directory [connection]))
    (others : ∀ other, other ≠ connection → board.presence.contains user other = true →
      board.Exact excused current other) :
    (ofLeaves batch true).Attends board excused current user := by
  unfold ofLeaves
  by_cases done : batch.isDone = true
  · rw [if_pos done]
    refine .done rfl fun other present => ?_
    by_cases here : other = connection
    · subst here
      obtain ⟨-, carried⟩ := serves.done done
      exact (Work.settled_of_operations carried).exact List.mem_cons_self (by rw [newest]; rfl)
    · exact others other here present
  · rw [if_neg done]
    exact .leaving registered newest serves others

/-- A user who is online is looked up; otherwise no connection is to be attended to. -/
theorem attends_visit
    (awaited : ∀ connection, board.presence.contains user connection = true →
      current connection = .awaited) :
    (visit board user).Attends board excused current user := by
  unfold visit
  split
  · exact .lookingUp awaited
  · rename_i offline
    refine .done rfl fun connection registered => absurd ?_ offline
    exact (Presence.isOnline_iff _ _).2 ⟨connection, registered⟩

/-- The account store's answer is in force for all connections of the user. -/
theorem attends_resolve (excused : Connection → Channel → Prop)
    (idle : board.slots.slot user = .idle)
    (newest : ∀ connection, board.presence.contains user connection = true →
      current connection = (board.accounts user).current user) :
    (resolve board user).2.Attends (resolve board user).1 excused current user := by
  rw [resolve_eq, submit_eq]
  cases online : board.presence.isOnline user with
  | true =>
      have started := Run.start_board board user ((board.accounts user).demand user).1
      have presence : (Run.start board user
          ((board.accounts user).demand user).1).1.presence = board.presence := by
        rw [started]
      have stands := Run.stands_start excused ((board.accounts user).demand user).1 idle
      rw [← presence] at stands newest
      simp only [Switchboard.submit, online, if_true]
      apply attends_ofRunState _ stands
      intro connection registered
      rw [newest connection registered, Account.work?_current]
  | false =>
      simp only [Switchboard.submit, online, Bool.false_eq_true, if_false]
      refine .done (ofRunState_over _ _) fun connection registered => ?_
      have present := (Presence.isOnline_iff _ _).2 ⟨connection, registered⟩
      rw [online] at present
      cases present

/-- An answer does not matter to connections on which nothing is attempted. -/
theorem exact_perform (strand : Strand) {passage : Passage} {spot : Spot} {connection : Connection}
    (settled : board.Exact excused current connection)
    (elsewhere : ∀ attempt, board.attempt? passage spot (strand.inquiry? spot) = some attempt →
      attempt.operation.connection ≠ connection)
    (excuses : Excuses (board.attempt? passage spot (strand.inquiry? spot)) excused excused') :
    (strand.perform board passage spot).1.Exact excused' current connection := by
  have apart (channel : Channel) :
      ∀ attempt ∈ board.attempt? passage spot (strand.inquiry? spot),
        attempt.operation.pair ≠ (connection, channel) := by
    intro attempt attempted same
    exact elsewhere attempt attempted (congrArg Prod.fst same)
  refine settled.mono ?_ rfl (fun channel => excuses.kept connection channel (apart channel))
    fun channel => .inr ?_
  · rw [perform_board]
  · rw [groups_perform]
    exact board.groups.isMember_afterAttempt_of_ne (apart channel)

/-- A strand goes on attending when the answer at one of its spots comes about. -/
theorem Attends.perform (attends : strand.Attends board excused current user)
    {passage : Passage} {spot : Spot} (known : strand = .lookingUp user → spot ≠ .account)
    (excuses : Excuses (board.attempt? passage spot (strand.inquiry? spot)) excused excused') :
    (strand.perform board passage spot).2.Attends (strand.perform board passage spot).1 excused'
      current user := by
  have quiet (nothing : board.attempt? passage spot (strand.inquiry? spot) = none)
      (stays : strand.perform board passage spot = (board, strand)) :
      (strand.perform board passage spot).2.Attends (strand.perform board passage spot).1
        excused' current user := by
    rw [stays]
    rw [nothing] at excuses
    exact attends.mono rfl rfl rfl (fun _ _ => rfl)
      (fun connection _ => excuses.kept_of_none connection) (fun _ _ _ => .inr rfl)
  cases attends with
  | queued awaited => exact quiet (by simp [inquiry?]) rfl
  | lookingUp awaited =>
      cases spot with
      | account => exact absurd rfl (known rfl)
      | _ => exact quiet rfl rfl
  | done finished settled =>
      exact quiet (by simp [inquiry?_of_isOver finished]) (perform_of_isOver finished _ _ _)
  | @running run failure work stands newest =>
      cases stands with
      | @active _ pass held going serves =>
          have stands := Run.stands_perform held serves excuses
            (Run.successor?_of_unparked held passage spot)
          have presence := presence_perform (.running ⟨⟨user, true⟩, work, pass⟩ failure) board
            passage spot
          rw [← presence] at stands newest
          exact attends_ofRunState failure stands newest
  | @assigning assignment principal connection registered newest serves others =>
      have directory := directory_perform (.assigning user assignment true) board passage spot
      have presence := presence_perform (.assigning user assignment true) board passage spot
      have serves' := serves.perform excuses
      have others' (other : Connection) (apart : other ≠ connection)
          (present : board.presence.contains user other = true) :
          (assignment.perform board passage spot).1.Exact excused' current other := by
        refine exact_perform (.assigning user assignment true) (others other apart present)
          (fun attempt attempted same => ?_) excuses
        obtain ⟨here, -⟩ := (Directory.mem_joins _).1 (serves.attempts attempted)
        exact apart (same.symm.trans here)
      rw [← presence] at registered others'
      rw [← directory] at serves'
      exact attends_ofAssignment registered newest serves' others'
  | @leaving batch connection registered newest serves others =>
      cases spot with
      | operation operation =>
          have directory := directory_perform (.leaving batch true) board passage
            (.operation operation)
          have presence := presence_perform (.leaving batch true) board passage
            (.operation operation)
          have serves' := serves.perform excuses
          have others' (other : Connection) (apart : other ≠ connection)
              (present : board.presence.contains user other = true) :
              (batch.perform board passage operation).1.Exact excused' current other := by
            refine exact_perform (.leaving batch true) (others other apart present)
              (fun attempt attempted same => ?_) excuses
            have issued := Batch.Serves.attempts serves attempted
            exact apart (same.symm.trans
              (List.mem_singleton.1 ((Work.mem_operations _ _).1 issued).1))
          rw [← presence] at registered others'
          rw [← directory] at serves'
          exact attends_ofLeaves registered newest serves' others'
      | _ => exact quiet rfl rfl

/-- The setup of a connection runs out of time: there is no current principal any more. -/
theorem Attends.expire (attends : strand.Attends board excused current user)
    (timedOut : ∀ connection, strand.settingUp? = some (user, connection) →
      current' connection = .nobody)
    (same : ∀ connection, board.presence.contains user connection = true →
      strand.settingUp? ≠ some (user, connection) → current' connection = current connection) :
    (strand.expire board).2.Attends (strand.expire board).1 excused current' user := by
  have quiet (silent : strand.settingUp? = none) :
      strand.Attends board excused current' user :=
    attends.mono rfl rfl rfl (fun connection registered =>
      same connection registered (by rw [silent]; nofun)) (fun _ _ _ excuse => excuse)
      (fun _ _ _ => .inr rfl)
  cases attends with
  | queued awaited => exact quiet rfl
  | lookingUp awaited => exact quiet rfl
  | running stands newest => exact quiet rfl
  | leaving registered newest serves others => exact quiet rfl
  | done finished settled =>
      rw [expire_of_isOver finished]
      apply quiet
      cases strand <;> first | rfl | cases finished
  | @assigning assignment principal connection registered newest serves others =>
      have here : assignment.connection = connection := by cases serves <;> rfl
      have leaves := Work.operations_revoke board [connection]
      rw [List.flatMap_singleton] at leaves
      simp only [Strand.expire, leaveAll, here, ← leaves]
      refine attends_ofLeaves registered (timedOut connection ?_)
        (Batch.serves_start _ _ _ user 1
          (Work.revoke.nodup_operations (List.nodup_singleton connection))) ?_
      · rw [settingUp?, here]
      · intro other apart present
        refine (others other apart present).mono rfl (same other present ?_)
          (fun _ excuse => excuse) (fun _ => .inr rfl)
        rw [settingUp?, here]
        simpa using apart.symm

end Strand
end ChannelMembership
