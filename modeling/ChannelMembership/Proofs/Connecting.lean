import ChannelMembership.Proofs.NewestWork
import ChannelMembership.Proofs.Switchboard.Assignment

/-!
# A permission change during the setup of a connection

The setup of a connection does not use the slot of its user.  If the permissions of the user change
meanwhile, the joins of the initial assignment and the operations of the change are carried out in any
order.  A channel that the change refuses is kept exactly where a join of the setup comes last, and
such a join was decided for the principal with which the connection was set up.
-/

namespace ChannelMembership

/-- A strand that sets a connection up for a principal, or takes it out of every known channel because
that took too long. -/
inductive Strand.SetsUp (directory : Directory) (user : UserKey) (principal : Principal)
    (connection : Connection) : Strand → Prop
  /-- The connection is being assigned its channels. -/
  | assigning {assignment : Assignment} {groups : Groups}
    (serves : assignment.Serves directory groups (fun _ _ => True) user principal connection) :
    SetsUp directory user principal connection (.assigning user assignment true)
  /-- The connection is leaving every known channel. -/
  | leaving {batch : Batch} {groups : Groups}
    (serves : batch.Serves groups (fun _ _ => True) user 1
      (Work.revoke.operations directory [connection])) :
    SetsUp directory user principal connection (.leaving batch true)
  /-- Nothing is left to do. -/
  | done {strand : Strand} (finished : strand.isOver = true) :
    SetsUp directory user principal connection strand

namespace Strand

variable {directory : Directory} {user : UserKey} {principal : Principal}
  {connection : Connection} {strand : Strand}

theorem setsUp_ofAssignment {assignment : Assignment} {groups : Groups}
    (serves : assignment.Serves directory groups (fun _ _ => True) user principal connection) :
    (ofAssignment user assignment true).SetsUp directory user principal connection := by
  unfold ofAssignment
  split
  · exact .assigning serves
  · exact .done rfl

theorem setsUp_ofLeaves {batch : Batch} {groups : Groups}
    (serves : batch.Serves groups (fun _ _ => True) user 1
      (Work.revoke.operations directory [connection])) :
    (ofLeaves batch true).SetsUp directory user principal connection := by
  unfold ofLeaves
  split
  · exact .done rfl
  · exact .leaving serves

theorem SetsUp.perform {board : Switchboard}
    (setsUp : strand.SetsUp board.directory user principal connection) (passage : Passage)
    (spot : Spot) :
    (strand.perform board passage spot).2.SetsUp board.directory user principal connection := by
  cases setsUp with
  | assigning serves =>
      have here : Assignment.Serves board.directory board.groups (fun _ _ => True) user principal
          connection _ := serves.mono (fun _ _ => trivial) fun _ => .inl trivial
      exact setsUp_ofAssignment (here.perform (.everything _))
  | leaving serves =>
      have here : Batch.Serves board.groups (fun _ _ => True) user 1 _ _ :=
        serves.mono (fun _ _ _ => trivial) fun _ _ => .inl trivial
      cases spot with
      | operation operation => exact setsUp_ofLeaves (here.perform (.everything _))
      | _ => exact .leaving here
  | done finished =>
      rw [Strand.perform_of_isOver finished]
      exact .done finished

theorem SetsUp.expire {board : Switchboard}
    (setsUp : strand.SetsUp board.directory user principal connection) :
    (strand.expire board).2.SetsUp board.directory user principal connection := by
  cases setsUp with
  | @assigning assignment groups serves =>
      have here : assignment.connection = connection := by cases serves <;> rfl
      have leaves := Work.operations_revoke board [connection]
      rw [List.flatMap_singleton] at leaves
      simp only [Strand.expire, leaveAll, here, ← leaves]
      exact setsUp_ofLeaves (Batch.serves_start groups _ _ user 1
        (Work.revoke.nodup_operations (List.nodup_singleton connection)))
  | leaving serves => exact .leaving serves
  | done finished =>
      rw [expire_of_isOver finished]
      exact .done finished

/-- A join that is attempted is one to a channel granted to the principal. -/
theorem SetsUp.granted_of_join {board : Switchboard}
    (setsUp : strand.SetsUp directory user principal connection) {passage : Passage} {spot : Spot}
    {attempt : Attempt}
    (attempted : board.attempt? passage spot (strand.inquiry? spot) = some attempt)
    (joins : attempt.operation.isJoin = true) :
    directory.grants principal attempt.operation.channel = true := by
  cases setsUp with
  | assigning serves =>
      obtain ⟨-, -, -, granted⟩ := (Directory.mem_joins _).1 (serves.attempts attempted)
      exact granted
  | leaving serves =>
      obtain ⟨rfl, -, -⟩ := Switchboard.attempt?_eq_some attempted
      have issued := Batch.Serves.attempts serves attempted
      obtain ⟨-, -, leaves⟩ := (Work.mem_operations _ _).1 issued
      rw [joins] at leaves
      cases leaves
  | done finished => simp [inquiry?_of_isOver finished] at attempted

end Strand

/-- Whether a strand or a run for a user carried an operation out. -/
def Touch.isBy (position : Nat) (user : UserKey) : Touch → Bool
  | attempted strand runner? attempt =>
    (strand = position ∨ runner? = some user) ∧ attempt.delivery = .ok ()
  | closed => false

/-- Only a strand and runs for a user touch the memberships of a connection, and their operations are
carried out. -/
def SharedBy (position : Nat) (user : UserKey) (connection : Connection)
    (moments : List Moment) : Prop :=
  ∀ moment ∈ moments, ∀ channel touch, moment.touch? connection channel = some touch →
    touch.isBy position user = true

/-- A connection is shared by a strand and the runs for its user if only they attempt operations on
it, which are carried out, and the transport closes no connection. -/
theorem sharedBy_of_attempts {system : System} {position : Nat} {user : UserKey}
    {connection : Connection} {events : List Event}
    (stays : ∀ event ∈ events, ∀ other, event ≠ .close other)
    (served : ∀ found ∈ (system.moments events).filterMap Moment.attempt?,
      found.2.2.operation.connection = connection →
        (found.1 = position ∨ found.2.1 = some user) ∧ found.2.2.delivery = .ok ()) :
    SharedBy position user connection (system.moments events) := by
  intro moment member channel touch touched
  obtain ⟨found, attempted, same, rfl⟩ :=
    Moment.attempted_of_touch? touched (stays _ (System.event_mem_of_moments member))
  have shares := served _ (List.mem_filterMap.2 ⟨moment, member, attempted⟩)
    (congrArg Prod.fst same)
  simpa [Touch.isBy] using shares

/-- The setup of a connection, and what happens after it has begun. -/
def setup (principal : Principal) (connection : Connection) (rest : List Event) : List Event :=
  .submit (.connect principal connection) :: rest

section Connecting

variable {system : System} {user : UserKey} {principal : Principal} {connection : Connection}

theorem connect_step (system : System) (connection : Connection)
    (known : principal.user = some user) :
    (system.step (.submit (.connect principal connection))).strands[system.strands.length]? =
        some (Strand.ofAssignment user (Assignment.start
          { system.board with presence := system.board.presence.add user connection } user principal
            connection).2 true) ∧
      (system.step (.submit (.connect principal connection))).board.presence.contains user
        connection = true := by
  constructor
  · simp [System.step, System.submit, Request.begin, known]
  · simp [System.step, System.submit, Request.begin, known, Assignment.start,
      Switchboard.tabulate]

/-- The connection stays registered, and its strand keeps setting it up. -/
theorem connecting_run (system : System) (known : principal.user = some user) (rest : List Event)
    (stays : ∀ event ∈ rest, event ≠ .disconnect user connection) :
    (((system.step (.submit (.connect principal connection))).run rest).board.presence.contains
        user connection = true) ∧
      ∃ strand, ((system.step (.submit (.connect principal connection))).run rest).strands[
          system.strands.length]? = some strand ∧
        strand.SetsUp system.board.directory user principal connection := by
  induction rest using List.reverseRecOn with
  | nil =>
      obtain ⟨strand, registered⟩ := connect_step system connection known
      refine ⟨registered, _, strand, ?_⟩
      have serves : Assignment.Serves _ Groups.empty (fun _ _ => True) user principal connection _ :=
        Assignment.serves_start
          { system.board with presence := system.board.presence.add user connection } user
          principal fun _ => .inl trivial
      exact Strand.setsUp_ofAssignment serves
  | append_singleton events event induction =>
      obtain ⟨registered, strand, found, setsUp⟩ :=
        induction fun event member => stays event (List.mem_append_left _ member)
      rw [System.run_concat]
      refine ⟨System.contains_step registered (stays event (by simp)), ?_⟩
      have directory : ((system.step (.submit (.connect principal connection))).run
          events).board.directory = system.board.directory := by
        rw [System.run_directory, System.step_directory]
      rw [← directory] at setsUp ⊢
      obtain ⟨after, after_eq, change⟩ := Moment.strand_next
        ⟨(system.step (.submit (.connect principal connection))).run events, event⟩ found
      refine ⟨after, after_eq, ?_⟩
      rcases change with rfl | ⟨spot, passage, -, rfl⟩ | ⟨other, rfl, rfl⟩ | rfl | ⟨-, -, rfl⟩
      · exact setsUp
      · exact setsUp.perform passage spot
      · cases setsUp with
        | done finished => cases finished
      · exact setsUp.expire
      · exact .done (Strand.isOver_abandon strand _)

/-- The strand that sets the connection up joins only channels that are granted to its principal. -/
theorem granted_of_joined (known : principal.user = some user) {rest : List Event}
    (stays : ∀ event ∈ rest, event ≠ .disconnect user connection) {channel : Channel}
    (joined : LastTouch (Touch.joinsBy system.strands.length)
      (system.moments (setup principal connection rest)) connection channel) :
    system.board.directory.grants principal channel = true := by
  obtain ⟨moment, member, touch, touched, joins⟩ := lastTouch_mem joined
  cases touch with
  | closed => cases joins
  | attempted strand runner? attempt =>
      simp only [Touch.joinsBy, Bool.decide_and, Bool.decide_eq_true, Bool.and_eq_true,
        decide_eq_true_eq] at joins
      obtain ⟨rfl, isJoin⟩ := joins
      obtain ⟨spot, passage, strand, event, found, attempted, same⟩ :=
        Moment.perform_of_touch? touched
      rcases List.mem_cons.1 member with rfl | later
      · cases event
      · obtain ⟨before, after, rfl, reached⟩ := System.exists_of_mem_moments later
        obtain ⟨-, strand', found', setsUp⟩ := connecting_run system known before
          fun event member => stays event (List.mem_append_left _ member)
        rw [reached, found'] at found
        cases found
        have here : attempt.operation.channel = channel := congrArg Prod.snd same
        rw [← here]
        exact setsUp.granted_of_join attempted isJoin

/-- The passes that begin meanwhile find the connection. -/
theorem mem_found_of_began (known : principal.user = some user) {rest : List Event}
    (stays : ∀ event ∈ rest, event ≠ .disconnect user connection) {work : Work}
    {found : List Connection}
    (began : .began work found ∈ ledger user
      (system.moments (setup principal connection rest))) :
    connection ∈ found := by
  obtain ⟨moment, member, marked⟩ := List.mem_flatMap.1 began
  rcases List.mem_cons.1 member with rfl | later
  · simp [Moment.marks, Moment.arrival?] at marked
  · obtain ⟨before, after, rfl, reached⟩ := System.exists_of_mem_moments later
    obtain ⟨registered, -⟩ := connecting_run system known before
      fun event member => stays event (List.mem_append_left _ member)
    rw [Moment.found_of_began marked, Presence.mem_connections, reached]
    exact registered

/-- The connection is a member where the strand joined it last. -/
theorem SharedBy.member_of_joined {position : Nat} {events : List Event} {channel : Channel}
    (shared : SharedBy position user connection (system.moments events))
    (joined : LastTouch (Touch.joinsBy position) (system.moments events) connection channel) :
    (system.run events).board.groups.isMember channel connection = true := by
  obtain ⟨touch, last, joins⟩ := joined
  obtain ⟨moment, member, touched⟩ := List.mem_filterMap.1 (List.mem_of_getLast? last)
  have mine := shared moment member channel touch touched
  cases touch with
  | closed => cases joins
  | attempted strand runner? attempt =>
      obtain ⟨-, delivered⟩ : _ ∧ attempt.delivery = .ok () := by simpa [Touch.isBy] using mine
      obtain ⟨-, isJoin⟩ : strand = position ∧ attempt.operation.isJoin = true := by
        simpa [Touch.joinsBy] using joins
      rw [system.isMember_run_of_lastTouch events last delivered]
      exact isJoin

/-- Where no run for the user had the last word, the strand joined if the connection is a member. -/
theorem SharedBy.joined_of_disturbed {position : Nat} {events : List Event} {channel : Channel}
    (shared : SharedBy position user connection (system.moments events))
    (disturbed : Disturbed user (system.moments events) connection channel)
    (present : (system.run events).board.groups.isMember channel connection = true) :
    LastTouch (Touch.joinsBy position) (system.moments events) connection channel := by
  obtain ⟨touch, last, foreign⟩ := disturbed
  obtain ⟨moment, member, touched⟩ := List.mem_filterMap.1 (List.mem_of_getLast? last)
  have mine := shared moment member channel touch touched
  refine ⟨touch, last, ?_⟩
  cases touch with
  | closed => cases mine
  | attempted strand runner? attempt =>
      obtain ⟨either, delivered⟩ : (strand = position ∨ runner? = some user) ∧
          attempt.delivery = .ok () := by simpa [Touch.isBy] using mine
      have other : runner? ≠ some user := by simpa [Touch.servesUser, delivered] using foreign
      have here : strand = position := either.resolve_right other
      rw [system.isMember_run_of_lastTouch events last delivered] at present
      simp [Touch.joinsBy, here, present]

/-- When a permission change is done whose passes went on during the setup of a connection, a channel
that the change refuses is kept exactly if a join of the setup touched that membership last; such a
channel was granted to the principal with which the connection was set up. -/
theorem refused_member_iff_joined_last (resting : system.Resting user)
    (known : principal.user = some user) (rest : List Event)
    (stays : ∀ event ∈ rest, event ≠ .disconnect user connection)
    (uninterrupted : Uninterrupted user (system.moments (setup principal connection rest)))
    (shared : SharedBy system.strands.length user connection
      (system.moments (setup principal connection rest)))
    (changed : arrivals (ledger user (system.moments (setup principal connection rest))) ≠ [])
    (released : (system.run (setup principal connection rest)).board.slots.slot user = .idle) :
    ∃ newest found,
      (arrivals (ledger user (system.moments (setup principal connection rest)))).getLast? =
        some newest ∧
      (passes (ledger user (system.moments (setup principal connection rest)))).getLast? =
        some (newest.work, found) ∧
      connection ∈ found ∧
      ∀ channel, system.board.directory.governs channel = true →
        newest.work.grants system.board.directory channel = false →
        ((system.run (setup principal connection rest)).board.groups.isMember channel
            connection = true ↔
          LastTouch (Touch.joinsBy system.strands.length)
            (system.moments (setup principal connection rest)) connection channel) ∧
        ((system.run (setup principal connection rest)).board.groups.isMember channel
            connection = true →
          system.board.directory.grants principal channel = true) := by
  obtain ⟨opener, outcome, newest, found, last, standing⟩ :=
    uninterrupted.standing resting changed released
  have began := mem_passes.1 (List.mem_of_getLast? standing.pass)
  have registered := mem_found_of_began known stays began
  have settled := standing.settled
  rw [System.run_directory] at settled
  refine ⟨newest, found, last, standing.pass, registered, fun channel governed refused => ?_⟩
  have joined (present : (system.run (setup principal connection rest)).board.groups.isMember
      channel connection = true) :
      LastTouch (Touch.joinsBy system.strands.length)
        (system.moments (setup principal connection rest)) connection channel := by
    rcases settled connection registered channel governed with disturbed | agrees
    · exact shared.joined_of_disturbed disturbed present
    · rw [present, refused] at agrees
      cases agrees
  exact ⟨⟨joined, shared.member_of_joined⟩, fun present =>
    granted_of_joined known stays (joined present)⟩

end Connecting

/-- While an editor's connection is set up, the role is withdrawn: the account store knows a plain
user, and a permission change looks that user up and asks the guard. -/
def withdrawal : List Event :=
  [.setAccount firstUser (.known (Principal.ofUser firstUser)),
    .submit (.change (.listed [firstUser])),
    .visit 1,
    .perform 1 .account .through,
    .perform 1 (.question ⟨"news"⟩) .through]

/-- The change ends by leaving the channel. -/
def withdrawalEnd : List Event := [.perform 1 (.operation (.leave ⟨"c1"⟩ ⟨"news"⟩)) .through]

/-- The rest of the setup: the guard is asked, and the channel is joined. -/
def setupEnd : List Event :=
  [.perform 0 (.question ⟨"news"⟩) .through,
    .perform 0 (.operation (.join ⟨"c1"⟩ ⟨"news"⟩)) .through]

theorem withdrawal_prevails_in_newsroom :
    (passes (ledger firstUser (quietNewsroom.moments
        (setup editor ⟨"c1"⟩ (withdrawal ++ setupEnd ++ withdrawalEnd))))).getLast? =
          some (.reconcile (Principal.ofUser firstUser), [⟨"c1"⟩]) ∧
      newsroom.grants (Principal.ofUser firstUser) ⟨"news"⟩ = false ∧
      (quietNewsroom.run (setup editor ⟨"c1"⟩
        (withdrawal ++ setupEnd ++ withdrawalEnd))).board.groups.isMember ⟨"news"⟩ ⟨"c1"⟩ =
          false := by
  have shared : SharedBy 0 firstUser ⟨"c1"⟩ (quietNewsroom.moments
      (setup editor ⟨"c1"⟩ (withdrawal ++ setupEnd ++ withdrawalEnd))) :=
    sharedBy_of_attempts (by simp [setup, withdrawal, setupEnd, withdrawalEnd])
      (by decide +kernel)
  obtain ⟨newest, found, -, pass, -, kept⟩ :=
    refused_member_iff_joined_last (quietNewsroom_resting firstUser) (rfl : editor.user = some firstUser)
      (withdrawal ++ setupEnd ++ withdrawalEnd)
      (by simp [withdrawal, setupEnd, withdrawalEnd])
      (uninterrupted_of_events _ _ (by simp [setup, withdrawal, setupEnd, withdrawalEnd]))
      shared (by decide +kernel) (by decide +kernel)
  have demoted : (passes (ledger firstUser (quietNewsroom.moments
      (setup editor ⟨"c1"⟩ (withdrawal ++ setupEnd ++ withdrawalEnd))))).getLast? =
        some (.reconcile (Principal.ofUser firstUser), [⟨"c1"⟩]) := by decide +kernel
  have work : newest.work = .reconcile (Principal.ofUser firstUser) :=
    congrArg Prod.fst (Option.some.inj (pass.symm.trans demoted))
  have refused : newsroom.grants (Principal.ofUser firstUser) ⟨"news"⟩ = false := by decide +kernel
  have leaves : lastTouch? (quietNewsroom.moments (setup editor ⟨"c1"⟩
      (withdrawal ++ setupEnd ++ withdrawalEnd))) ⟨"c1"⟩ ⟨"news"⟩ =
        some (.attempted 1 (some firstUser) ⟨.leave ⟨"c1"⟩ ⟨"news"⟩, .ok ()⟩) := by decide +kernel
  refine ⟨demoted, refused, Bool.eq_false_iff.2 fun present => ?_⟩
  obtain ⟨touch, last, joins⟩ :=
    (kept ⟨"news"⟩ (by decide +kernel) (by rw [work]; exact refused)).1.1 present
  cases leaves.symm.trans last
  cases joins

/-- It is not so that a channel refused by a permission change during the setup of a connection is
never kept. -/
theorem setup_undoes_withdrawal :
    ¬∀ (system : System) (user : UserKey) (principal : Principal) (connection : Connection)
      (rest : List Event), system.Resting user → principal.user = some user →
      (∀ event ∈ rest, event ≠ .disconnect user connection) →
      (∀ request, .submit request ∈ rest → ∃ audience, request = .change audience) →
      Uninterrupted user (system.moments (setup principal connection rest)) →
      SharedBy system.strands.length user connection
        (system.moments (setup principal connection rest)) →
      (system.run (setup principal connection rest)).board.slots.slot user = .idle →
      (∀ strand ∈ (system.run (setup principal connection rest)).strands,
        strand.isOver = true) →
      ∀ work found,
        (passes (ledger user (system.moments
          (setup principal connection rest)))).getLast? = some (work, found) →
        ∀ channel, system.board.directory.governs channel = true →
          work.grants system.board.directory channel = false →
          (system.run (setup principal connection rest)).board.groups.isMember channel
            connection = false := by
  intro claim
  have absent := claim quietNewsroom firstUser editor ⟨"c1"⟩
    (withdrawal ++ withdrawalEnd ++ setupEnd) (quietNewsroom_resting firstUser) rfl
    (by simp [withdrawal, setupEnd, withdrawalEnd])
    (by simp [withdrawal, setupEnd, withdrawalEnd])
    (uninterrupted_of_events _ _ (by simp [setup, withdrawal, setupEnd, withdrawalEnd]))
    (sharedBy_of_attempts (by simp [setup, withdrawal, setupEnd, withdrawalEnd])
      (by decide +kernel))
    (by decide +kernel) (by decide +kernel) (.reconcile (Principal.ofUser firstUser)) [⟨"c1"⟩]
    (by decide +kernel) ⟨"news"⟩ (by decide +kernel) (by decide +kernel)
  have present : (quietNewsroom.run (setup editor ⟨"c1"⟩
      (withdrawal ++ withdrawalEnd ++ setupEnd))).board.groups.isMember ⟨"news"⟩ ⟨"c1"⟩ = true := by
    decide +kernel
  rw [present] at absent
  cases absent

end ChannelMembership
