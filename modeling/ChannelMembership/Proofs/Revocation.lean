import ChannelMembership.Proofs.Handshake
import ChannelMembership.Proofs.Switchboard.Departure

/-!
# Revocation narrows

Memberships are taken away from a user or from one connection on request, and from a user about whom the
account store does not return a principal of that very user when permissions change.  Whichever way it
comes about, no guard is asked and nobody is joined to anything.  Every connection concerned is asked
once to leave every known channel, and it stays a member exactly where it was one and its leave failed.
-/

namespace ChannelMembership

namespace Moment

variable {moment : Moment} {position : Nat}

/-- An attempt is made when an answer comes in at a spot of its strand. -/
theorem event_of_attempt? {found : Nat × Option UserKey × Attempt}
    (attempted : moment.attempt? = some found) :
    ∃ spot passage, moment.event = .perform found.1 spot passage := by
  obtain ⟨system, event⟩ := moment
  cases event with
  | perform position spot passage =>
      simp only [attempt?, Option.bind_eq_some_iff, Option.map_eq_some_iff] at attempted
      obtain ⟨strand, -, attempt, -, rfl⟩ := attempted
      exact ⟨spot, passage, rfl⟩
  | _ => cases attempted

theorem attemptOf?_eq_some_iff {attempt : Attempt} :
    moment.attemptOf? position = some attempt ↔
      ∃ runner?, moment.attempt? = some (position, runner?, attempt) := by
  simp only [attemptOf?, Option.bind_eq_some_iff, Option.ite_none_right_eq_some, Option.some.injEq,
    Prod.exists]
  constructor
  · rintro ⟨other, runner?, attempt', attempted, rfl, rfl⟩
    exact ⟨runner?, attempted⟩
  · rintro ⟨runner?, attempted⟩
    exact ⟨position, runner?, attempt, attempted, rfl, rfl⟩

end Moment

/-- What only one strand touches is as the attempt of that strand makes it. -/
theorem TouchedOnlyBy.isMember_afterAttempt {position : Nat} {connection : Connection}
    {moments : List Moment} (only : TouchedOnlyBy position connection moments) {moment : Moment}
    (member : moment ∈ moments) (channel : Channel) :
    moment.next.board.groups.isMember channel connection =
      (moment.system.board.groups.afterAttempt (moment.attemptOf? position)).isMember channel
        connection := by
  cases attempted : moment.attemptOf? position with
  | none => exact only.isMember_next member attempted channel
  | some attempt =>
      obtain ⟨runner?, found⟩ := Moment.attemptOf?_eq_some_iff.1 attempted
      obtain ⟨spot, passage, event⟩ := Moment.event_of_attempt? found
      rw [Moment.groups_next_of_perform event, found]
      rfl

/-- What only one strand touches is as the attempts of that strand have made it. -/
theorem TouchedOnlyBy.isMember_run {system : System} {position : Nat} {connection : Connection}
    {events : List Event} (only : TouchedOnlyBy position connection (system.moments events))
    (channel : Channel) :
    (system.run events).board.groups.isMember channel connection =
      (system.board.groups.afterAll (attemptsOf position (system.moments events))).isMember channel
        connection := by
  induction events using List.reverseRecOn with
  | nil => rfl
  | append_singleton events event induction =>
      rw [System.moments_concat] at only ⊢
      rw [System.run_concat, attemptsOf_concat, Groups.afterAll_append_toList]
      exact (only.isMember_afterAttempt (List.mem_append_right _ List.mem_cons_self) channel).trans
        (Groups.isMember_afterAttempt_congr (induction only.of_append) _)

/-- Where strands go on, a strand is alone with a connection on which no other one attempts anything. -/
theorem touchedOnlyBy_of_secluded {system : System} {request : Request} {position first count : Nat}
    {connection : Connection} {rest : List Event} (secluded : Secluded first count rest)
    (apart : ∀ index < count, first + index ≠ position → ∀ attempt ∈ attemptsOf (first + index)
      (system.moments (.submit request :: rest)), attempt.operation.connection ≠ connection) :
    TouchedOnlyBy position connection (system.moments (.submit request :: rest)) := by
  refine touchedOnlyBy_of_attempts (fun event member other => ?_) fun found member same => ?_
  · rcases List.mem_cons.1 member with rfl | later
    · nofun
    · obtain ⟨index, -, furthers⟩ := secluded event later
      rintro rfl
      cases furthers
  · obtain ⟨moment, among, attempted⟩ := List.mem_filterMap.1 member
    obtain ⟨spot, passage, event⟩ := Moment.event_of_attempt? attempted
    rcases List.mem_cons.1 (System.event_mem_of_moments among) with made | later
    · rw [event] at made
      cases made
    · obtain ⟨index, inside, furthers⟩ := secluded _ later
      have here : first + index = found.1 := by
        have strand := furthers.strand?_eq
        rw [event] at strand
        exact (Option.some.inj strand).symm
      by_contra elsewhere
      refine apart index inside (here ▸ elsewhere) found.2.2 ?_ same
      exact List.mem_filterMap.2 ⟨moment, among, Moment.attemptOf?_eq_some_iff.2
        ⟨found.2.1, here ▸ attempted⟩⟩

/-- Where no two operations concern the same membership, an operation that was attempted either failed
or was carried out. -/
theorem Attempt.not_carried_iff {attempts : List Attempt}
    (distinct : (attempts.map fun attempt => attempt.operation.pair).Nodup) {operation : Operation}
    {delivery : Delivery} (attempted : ⟨operation, delivery⟩ ∈ attempts) :
    ⟨operation, .ok ()⟩ ∉ attempts ↔ ∃ error, ⟨operation, .error error⟩ ∈ attempts := by
  have same {other : Delivery} (member : ⟨operation, other⟩ ∈ attempts) : other = delivery :=
    congrArg Attempt.delivery (List.inj_on_of_nodup_map distinct member attempted rfl)
  cases delivery with
  | ok done =>
      exact iff_of_false (fun absent => absent attempted) fun ⟨_, failed⟩ => nomatch same failed
  | error error =>
      exact iff_of_true (fun carried => nomatch same carried) ⟨error, attempted⟩

/-- Leaves take away exactly the memberships of which the leave was carried out. -/
theorem Groups.isMember_afterAll_leaves (groups : Groups) {attempts : List Attempt}
    (distinct : (attempts.map fun attempt => attempt.operation.pair).Nodup)
    (leaves : ∀ attempt ∈ attempts, attempt.operation.isJoin = false) (connection : Connection)
    (channel : Channel) :
    (groups.afterAll attempts).isMember channel connection = true ↔
      groups.isMember channel connection = true ∧
        ⟨.leave connection channel, .ok ()⟩ ∉ attempts := by
  by_cases present : (connection, channel) ∈ attempts.map fun attempt => attempt.operation.pair
  · obtain ⟨⟨⟨action, connection', channel'⟩, delivery⟩, member, same⟩ := List.mem_map.1 present
    obtain ⟨rfl, rfl⟩ : connection' = connection ∧ channel' = channel := Prod.mk.injEq .. ▸ same
    have decided := groups.isMember_afterAll_of_mem distinct member
    cases action with
    | join => cases leaves _ member
    | leave =>
        cases delivery with
        | ok done =>
            rw [groups.isMember_after_self] at decided
            exact iff_of_false (fun stays => Bool.noConfusion (decided.symm.trans stays))
              fun both => both.2 member
        | error error =>
            exact (iff_of_eq (congrArg (· = true) decided)).trans
              (iff_self_and.2 fun _ => (Attempt.not_carried_iff distinct member).2 ⟨error, member⟩)
  · rw [groups.isMember_afterAll_of_absent present]
    exact iff_self_and.2 fun _ carried => present (List.mem_map_of_mem carried)

/-- While a connection is touched only by a strand that carries out leaves, it is a member where it was
one and its leave has not been carried out. -/
theorem TouchedOnlyBy.isMember_run_iff {system : System} {position : Nat} {connection : Connection}
    {events : List Event} {directory : Directory} {found : List Connection}
    {issued : List Operation}
    (only : TouchedOnlyBy position connection (system.moments events)) (distinct : found.Nodup)
    (inOrder : InOrder (Work.revoke.operations directory found) issued
      (attemptsOf position (system.moments events)))
    (channel : Channel) :
    (system.run events).board.groups.isMember channel connection = true ↔
      system.board.groups.isMember channel connection = true ∧
        ⟨.leave connection channel, .ok ()⟩ ∉ attemptsOf position (system.moments events) := by
  have each := inOrder.distinct (Work.revoke.nodup_operations distinct)
  have leaves : ∀ attempt ∈ attemptsOf position (system.moments events),
      attempt.operation.isJoin = false := fun attempt member =>
    ((Work.mem_operations_revoke _).1 (inOrder.mem_operations member)).2.2
  rw [only.isMember_run]
  exact Groups.isMember_afterAll_leaves _ each leaves connection channel

/-- How memberships are taken away from connections while nothing else happens.  A request may serve
others as well, and their connections are left out of account. -/
structure System.TakesAway (system : System) (request : Request) (position : Nat)
    (found : List Connection) (others : List UserKey) (rest : List Event) : Prop where
  /-- No guard is asked. -/
  unasked : questionsOf position (system.moments (.submit request :: rest)) = []
  /-- No operation is issued twice. -/
  once : (issuedBy position (system.moments (.submit request :: rest))).Nodup
  /-- Only leaves of the connections concerned from known channels are issued. -/
  leaves : ∀ operation ∈ issuedBy position (system.moments (.submit request :: rest)),
    operation.isJoin = false ∧ operation.connection ∈ found ∧
      system.board.directory.governs operation.channel = true
  /-- Each of them is attempted at most once, and nothing else is attempted. -/
  attempted : ((attemptsOf position (system.moments (.submit request :: rest))).map
    Attempt.operation).Subperm (issuedBy position (system.moments (.submit request :: rest)))
  /-- At any time, a connection is a member where it was one and its leave has not been carried out. -/
  member_iff : ∀ connection,
    (∀ user ∈ others, system.board.presence.contains user connection = false) → ∀ channel,
      (system.run (.submit request :: rest)).board.groups.isMember channel connection = true ↔
        system.board.groups.isMember channel connection = true ∧
          ⟨.leave connection channel, .ok ()⟩ ∉
            attemptsOf position (system.moments (.submit request :: rest))
  /-- In the end every connection concerned has been asked to leave every known channel. -/
  complete : (system.run (.submit request :: rest)).Finished position →
    (∀ connection ∈ found, ∀ channel, system.board.directory.governs channel = true →
      .leave connection channel ∈ issuedBy position (system.moments (.submit request :: rest))) ∧
    ((attemptsOf position (system.moments (.submit request :: rest))).map
      Attempt.operation).Perm (issuedBy position (system.moments (.submit request :: rest)))
  /-- It is then a member of a known channel where it was one and its leave failed. -/
  remains_iff : (system.run (.submit request :: rest)).Finished position → ∀ connection ∈ found,
    (∀ user ∈ others, system.board.presence.contains user connection = false) →
      ∀ channel, system.board.directory.governs channel = true →
        ((system.run (.submit request :: rest)).board.groups.isMember channel connection = true ↔
          system.board.groups.isMember channel connection = true ∧
            ∃ error, ⟨.leave connection channel, .error error⟩ ∈
              attemptsOf position (system.moments (.submit request :: rest)))
  /-- Other connections, and what nobody governs, are left alone. -/
  kept : ∀ connection,
    (∀ user ∈ others, system.board.presence.contains user connection = false) → ∀ channel,
      connection ∉ found ∨ system.board.directory.governs channel = false →
        (system.run (.submit request :: rest)).board.groups.isMember channel connection =
          system.board.groups.isMember channel connection
  /-- The end can always be reached. -/
  finishes : ∃ more,
    (∀ event ∈ more, ∃ index < (request.begin system.board).2.length,
      event.Advances (system.strands.length + index)) ∧
    (system.run (.submit request :: rest ++ more)).Finished position

section TakesAway

variable {system : System} {request : Request} {position : Nat} {found : List Connection}
  {others : List UserKey} {rest : List Event}

/-- Memberships are taken away by issuing in order all leaves of the connections concerned. -/
theorem takesAway_of_inOrder
    (unasked : questionsOf position (system.moments (.submit request :: rest)) = [])
    (distinct : found.Nodup)
    (inOrder : InOrder (Work.revoke.operations system.board.directory found)
      (issuedBy position (system.moments (.submit request :: rest)))
      (attemptsOf position (system.moments (.submit request :: rest))))
    (alone : ∀ connection,
      (∀ user ∈ others, system.board.presence.contains user connection = false) →
        TouchedOnlyBy position connection (system.moments (.submit request :: rest)))
    (complete : (system.run (.submit request :: rest)).Finished position →
      issuedBy position (system.moments (.submit request :: rest)) =
          Work.revoke.operations system.board.directory found ∧
        ((attemptsOf position (system.moments (.submit request :: rest))).map
          Attempt.operation).Perm (Work.revoke.operations system.board.directory found))
    (finishes : ∃ more,
      (∀ event ∈ more, ∃ index < (request.begin system.board).2.length,
        event.Advances (system.strands.length + index)) ∧
      (system.run (.submit request :: rest ++ more)).Finished position) :
    system.TakesAway request position found others rest := by
  have pairs : ((Work.revoke.operations system.board.directory found).map Operation.pair).Nodup :=
    Work.revoke.nodup_operations distinct
  have member_iff (connection : Connection)
      (mine : ∀ user ∈ others, system.board.presence.contains user connection = false) :=
    (alone connection mine).isMember_run_iff distinct inOrder
  refine ⟨unasked, ?_, fun operation member => ?_, inOrder.attempted, member_iff, fun ended => ?_,
    fun ended connection concerned mine channel governed => ?_,
    fun connection mine channel aside => ?_, finishes⟩
  · exact .of_map _ (pairs.sublist (inOrder.order.sublist.map _))
  · obtain ⟨concerned, governed, leaves⟩ :=
      (Work.mem_operations_revoke _).1 (inOrder.order.subset member)
    exact ⟨leaves, concerned, governed⟩
  · obtain ⟨issued, all⟩ := complete ended
    rw [issued]
    exact ⟨fun connection concerned channel governed =>
      (Work.mem_operations_revoke _).2 ⟨concerned, governed, rfl⟩, all⟩
  · obtain ⟨-, all⟩ := complete ended
    have issued := (Work.mem_operations_revoke (.leave connection channel)).2
      ⟨concerned, governed, rfl⟩
    obtain ⟨⟨operation, delivery⟩, attempted, same⟩ := List.mem_map.1 (all.symm.subset issued)
    obtain rfl : operation = .leave connection channel := same
    rw [member_iff connection mine, Attempt.not_carried_iff (inOrder.distinct pairs) attempted]
  · rw [Bool.eq_iff_iff, member_iff connection mine]
    refine and_iff_left fun carried => ?_
    obtain ⟨concerned, governed, -⟩ :=
      (Work.mem_operations_revoke _).1 (inOrder.mem_operations carried)
    exact aside.elim (fun absent => absent concerned) fun ungoverned =>
      Bool.noConfusion (ungoverned.symm.trans governed)

/-- One connection is asked to leave every known channel. -/
theorem takesAway_departure (system : System) (user : UserKey) (connection : Connection)
    (secluded : Secluded system.strands.length 1 rest) :
    system.TakesAway (.revokeConnection user connection) system.strands.length [connection] []
      rest := by
  obtain ⟨unasked, strand, found, departs⟩ := system.departs_run user connection secluded
  refine takesAway_of_inOrder unasked (List.nodup_singleton connection) departs.inOrder
    (fun _ _ => ?_) (fun ended => ?_) ?_
  · refine touchedOnlyBy_of_secluded secluded fun index inside elsewhere => ?_
    exact absurd (by omega) elsewhere
  · obtain ⟨strand', found', isOver⟩ := ended
    cases found.symm.trans found'
    exact departs.of_isOver isOver
  · obtain ⟨more, moved, advances, same, isOver⟩ := System.exists_answers found (departs.ends _)
    refine ⟨more, fun event member => ⟨0, Nat.one_pos, advances event member⟩, moved.2, ?_, isOver⟩
    rw [System.run_append, same]
    exact System.getElem?_put_self found moved

/-- The strand of a user is alone with the connections that no other user of the request has. -/
theorem touchedOnlyBy_of_duty (system : System) (request : Request) {index : Nat} {duty : Duty}
    (idle : ∀ duty ∈ request.duties system.board, system.board.slots.slot duty.user = .idle)
    (assigned : (request.duties system.board)[index]? = some duty)
    (secluded : Secluded system.strands.length (request.duties system.board).length rest)
    {connection : Connection}
    (mine : ∀ user ∈ ((request.duties system.board).map Duty.user).erase duty.user,
      system.board.presence.contains user connection = false) :
    TouchedOnlyBy (system.strands.length + index) connection
      (system.moments (.submit request :: rest)) := by
  have distinct := system.duties_distinct request
  refine touchedOnlyBy_of_secluded secluded fun other inside elsewhere attempt member same => ?_
  have assigned' := List.getElem?_eq_getElem inside
  obtain ⟨strand, -, tends⟩ := system.tends_run request idle secluded assigned'
  have registered := ((Work.mem_operations _ _).1 (tends.inOrder.mem_operations member)).1
  rw [same, Presence.mem_connections] at registered
  have foreign : (request.duties system.board)[other].user ∈
      ((request.duties system.board).map Duty.user).erase duty.user := by
    refine distinct.mem_erase_iff.2 ⟨fun shared => elsewhere ?_,
      List.mem_map_of_mem (List.getElem_mem inside)⟩
    rw [index_of_user distinct assigned' assigned shared]
  exact Bool.noConfusion ((mine _ foreign).symm.trans registered)

/-- A strand whose duty is to revoke takes away the memberships of its user. -/
theorem takesAway_duty (system : System) (request : Request) {index : Nat} {duty : Duty}
    (idle : ∀ duty ∈ request.duties system.board, system.board.slots.slot duty.user = .idle)
    (assigned : (request.duties system.board)[index]? = some duty) (revokes : duty.work = .revoke)
    (secluded : Secluded system.strands.length (request.begin system.board).2.length rest) :
    system.TakesAway request (system.strands.length + index)
      (system.board.presence.connections duty.user)
      (((request.duties system.board).map Duty.user).erase duty.user) rest := by
  have many := Request.length_begin (List.mem_of_getElem? assigned)
  rw [many] at secluded
  obtain ⟨strand, found, tends⟩ := system.tends_run request idle secluded assigned
  have operations : duty.operations system.board = Work.revoke.operations system.board.directory
      (system.board.presence.connections duty.user) := by
    rw [Duty.operations, revokes]
  refine takesAway_of_inOrder (tends.unasked revokes) (system.board.presence.nodup_connections _)
    (operations ▸ tends.inOrder)
    (fun connection mine => touchedOnlyBy_of_duty system request idle assigned secluded mine)
    (fun ended => ?_) ?_
  · obtain ⟨strand', found', isOver⟩ := ended
    cases found.symm.trans found'
    rw [← operations]
    rcases tends.of_isOver isOver with ⟨offline, rfl⟩ | ⟨-, -, issued, all, -⟩
    · obtain ⟨issued, attempts, -⟩ := tends.of_offline offline
      have nothing : duty.operations system.board = [] := by
        rw [operations, system.board.presence.connections_of_offline offline]
        rfl
      rw [issued, attempts, nothing]
      exact ⟨rfl, .refl _⟩
    · exact ⟨issued, all⟩
  · obtain ⟨more, advances, finished⟩ :=
      (system.tended_run request idle secluded).exists_finish
    rw [← many] at advances
    refine ⟨more, advances, ?_⟩
    rw [System.run_append]
    exact finished index (List.getElem?_eq_some_iff.1 assigned).1

end TakesAway

/-- The ways in which memberships are taken away: by which request, on which of its strands, from which
connections, and which other users it serves. -/
inductive Switchboard.Withdraws (board : Switchboard) :
    Request → Nat → List Connection → List UserKey → Prop
  /-- All memberships of a user are revoked, for whom nobody is at work. -/
  | user {user : UserKey} (idle : board.slots.slot user = .idle) :
    Withdraws board (.revokeUser user) 0 (board.presence.connections user) []
  /-- All memberships of one connection are revoked. -/
  | connection (user : UserKey) (connection : Connection) :
    Withdraws board (.revokeConnection user connection) 0 [connection] []
  /-- Permissions change, nobody is at work for the users concerned, and for one of them the account
  store does not return a principal of that very user. -/
  | change {audience : Audience} {index : Nat} {user : UserKey}
    (listed : (audience.members board.presence)[index]? = some user)
    (idle : ∀ member ∈ audience.members board.presence, board.slots.slot member = .idle)
    (withheld : ∀ principal, board.accounts user = .known principal → principal.user ≠ some user) :
    Withdraws board (.change audience) index (board.presence.connections user)
      ((audience.members board.presence).erase user)

/-- Whichever way memberships are taken away, nobody becomes a member of anything, and whoever is
concerned remains a member of a known channel exactly where the leave failed. -/
theorem revocation_narrows {system : System} {request : Request} {index : Nat}
    {found : List Connection} {others : List UserKey} {rest : List Event}
    (withdraws : system.board.Withdraws request index found others)
    (secluded : Secluded system.strands.length (request.begin system.board).2.length rest) :
    system.TakesAway request (system.strands.length + index) found others rest := by
  cases withdraws with
  | connection user connection => exact takesAway_departure system user connection secluded
  | @user user idle =>
      have taken := takesAway_duty system (.revokeUser user) (by simpa [Request.duties] using idle)
        (List.getElem?_cons_zero ..) rfl secluded
      simpa [Request.duties] using taken
  | @change audience _ user listed idle withheld =>
      have taken := takesAway_duty system (.change audience) (Request.idle_duties_change idle)
        (Request.duty_of_change listed) (Account.work_duty_of_withheld withheld) secluded
      rwa [Request.map_user_duties_change] at taken

/-- Two connections of an editor, who is not known any more, and one of somebody else are left in the
channel of the newsroom. -/
def leftoverNewsroom : System :=
  joinedNewsroom.run
    [.submit (.assign editor ⟨"c2"⟩), .perform 1 (.question ⟨"news"⟩) .through,
      .perform 1 (.operation (.join ⟨"c2"⟩ ⟨"news"⟩)) .through,
      .submit (.assign editor ⟨"d1"⟩), .perform 2 (.question ⟨"news"⟩) .through,
      .perform 2 (.operation (.join ⟨"d1"⟩ ⟨"news"⟩)) .through,
      .register firstUser ⟨"c1"⟩, .register firstUser ⟨"c2"⟩]

/-- The editor is looked up in vain, and of the two leaves one fails. -/
def leftoverAnswers : List Event :=
  [.visit 3, .perform 3 .account .through,
    .perform 3 (.operation (.leave ⟨"c2"⟩ ⟨"news"⟩)) .through,
    .perform 3 (.operation (.leave ⟨"c1"⟩ ⟨"news"⟩)) (.blocked (.failed "lost"))]

theorem lost_leave_remains_in_newsroom :
    leftoverNewsroom.TakesAway (.change (.listed [firstUser])) 3 [⟨"c1"⟩, ⟨"c2"⟩] []
        leftoverAnswers ∧
      (leftoverNewsroom.run (.submit (.change (.listed [firstUser])) :: leftoverAnswers)).Finished 3 ∧
      [⟨"c1"⟩, ⟨"c2"⟩, ⟨"d1"⟩].map ((leftoverNewsroom.run (.submit (.change (.listed
        [firstUser])) :: leftoverAnswers)).board.groups.isMember ⟨"news"⟩) = [true, false, true] := by
  have connections : leftoverNewsroom.board.presence.connections firstUser =
      [⟨"c1"⟩, ⟨"c2"⟩] := by decide +kernel
  have withdraws : leftoverNewsroom.board.Withdraws (.change (.listed [firstUser])) 0
      (leftoverNewsroom.board.presence.connections firstUser) [] :=
    .change rfl (by decide +kernel) nofun
  have secluded : Secluded 3 1 leftoverAnswers := by
    simp only [Secluded, leftoverAnswers, List.forall_mem_cons]
    exact ⟨⟨0, by decide, .visit⟩, ⟨0, by decide, .answer _ _⟩, ⟨0, by decide, .answer _ _⟩,
      ⟨0, by decide, .answer _ _⟩, nofun⟩
  have taken := revocation_narrows withdraws secluded
  rw [connections] at taken
  exact ⟨taken, ⟨_, rfl, rfl⟩, by decide +kernel⟩

end ChannelMembership
