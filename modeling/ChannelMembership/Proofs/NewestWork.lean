import ChannelMembership.Proofs.Switchboard.Service

/-!
# The newest work prevails

Requests for one user may be made at any moment of the passes under way.  Whatever the order, the
slot is given back only after a pass of the request that was made last, and that pass decides about
the memberships of all connections that it found.
-/

namespace ChannelMembership

/-- Only runs for the user touch the memberships of connections that are registered under the user
at some moment, and their operations are carried out. -/
def Undisturbed (user : UserKey) (moments : List Moment) : Prop :=
  ∀ moment ∈ moments, ∀ connection channel touch,
    (∃ other ∈ moments, other.system.board.presence.contains user connection = true) →
      moment.touch? connection channel = some touch → touch.servesUser user = true

/-- No run for the user is given up. -/
def Uninterrupted (user : UserKey) (moments : List Moment) : Prop :=
  ∀ work kept, .interrupted work kept ∉ ledger user moments

theorem uninterrupted_of_events (system : System) (user : UserKey) {events : List Event}
    (kept : ∀ event ∈ events, ∀ position kept, event ≠ .abandon position kept) :
    Uninterrupted user (system.moments events) := by
  intro work kept' interrupted
  obtain ⟨moment, member, marked⟩ := List.mem_flatMap.1 interrupted
  obtain ⟨position, event⟩ := Moment.event_of_interrupted marked
  exact kept _ (System.event_mem_of_moments member) position kept' event

/-- Nothing is disturbed if only runs for the user attempt operations on the user's connections, which
are carried out, and the transport closes no connection. -/
theorem undisturbed_of_attempts {system : System} {user : UserKey} {events : List Event}
    (stays : ∀ event ∈ events, ∀ connection, event ≠ .close connection)
    (served : ∀ found ∈ (system.moments events).filterMap Moment.attempt?,
      (∃ other ∈ system.moments events,
        other.system.board.presence.contains user found.2.2.operation.connection = true) →
        found.2.1 = some user ∧ found.2.2.delivery = .ok ()) :
    Undisturbed user (system.moments events) := by
  intro moment member connection channel touch registered touched
  obtain ⟨found, attempted, same, rfl⟩ :=
    Moment.attempted_of_touch? touched (stays _ (System.event_mem_of_moments member))
  have concerned : found.2.2.operation.connection = connection := congrArg Prod.fst same
  rw [← concerned] at registered
  have serves := served _ (List.mem_filterMap.2 ⟨moment, member, attempted⟩) registered
  simpa [Touch.servesUser] using serves

/-- Every membership of these connections in a known channel is as the work wants it. -/
def Work.Enforced (directory : Directory) (groups : Groups) (connections : List Connection)
    (work : Work) : Prop :=
  ∀ connection ∈ connections, ∀ channel, directory.governs channel = true →
    groups.isMember channel connection = work.grants directory channel

theorem lastTouch_mem {quality : Touch → Bool} {moments : List Moment} {connection : Connection}
    {channel : Channel} (last : LastTouch quality moments connection channel) :
    ∃ moment ∈ moments, ∃ touch, moment.touch? connection channel = some touch ∧
      quality touch = true := by
  obtain ⟨touch, last_eq, fits⟩ := last
  obtain ⟨moment, member, touched⟩ := lastTouch?_mem last_eq
  exact ⟨moment, member, touch, touched, fits⟩

theorem Undisturbed.not_disturbed {user : UserKey} {moments : List Moment}
    (undisturbed : Undisturbed user moments) {connection : Connection}
    (registered : ∃ other ∈ moments, other.system.board.presence.contains user connection = true)
    (channel : Channel) : ¬Disturbed user moments connection channel := by
  intro disturbed
  obtain ⟨moment, member, touch, touched, foreign⟩ := lastTouch_mem disturbed
  rw [undisturbed moment member connection channel touch registered touched] at foreign
  cases foreign

/-- Where nothing is disturbed, what is settled is enforced. -/
theorem Undisturbed.enforced {user : UserKey} {moments : List Moment}
    (undisturbed : Undisturbed user moments) {directory : Directory} {groups : Groups}
    {work : Work} {found : List Connection}
    (pass : (passes (ledger user moments)).getLast? = some (work, found))
    (settled : work.Settled directory groups (Disturbed user moments) found) :
    work.Enforced directory groups found := by
  intro connection member channel governed
  obtain ⟨moment, present, rfl⟩ := found_of_began (mem_passes.1 (List.mem_of_getLast? pass))
  have registered := (Presence.mem_connections _ _ _).1 member
  rcases settled connection member channel governed with disturbed | agrees
  · exact absurd disturbed (undisturbed.not_disturbed ⟨moment, present, registered⟩ channel)
  · exact agrees

/-- While no run for the user is given up, nothing is left undone and nothing is resumed. -/
theorem Uninterrupted.unresumed {system : System} {user : UserKey} (resting : system.Resting user)
    {events : List Event} (uninterrupted : Uninterrupted user (system.moments events)) :
    (∀ work, (user, work) ∉ (system.run events).undone) ∧
      ∀ arrival ∈ arrivals (ledger user (system.moments events)), arrival.resumed = false := by
  induction events using List.reverseRecOn with
  | nil => exact ⟨resting.done, nofun⟩
  | append_singleton events event induction =>
      rw [System.moments_concat] at uninterrupted ⊢
      obtain ⟨done, unresumed⟩ := induction fun work kept marked => by
        apply uninterrupted work kept
        rw [ledger_concat]
        exact List.mem_append_left _ marked
      rw [System.run_concat]
      constructor
      · intro work left
        rcases Moment.undone_of_next ⟨system.run events, event⟩ left with before | now
        · exact done work before
        · obtain ⟨kept, marked⟩ := now
          apply uninterrupted work kept
          rw [ledger_concat]
          exact List.mem_append_right _ marked
      · intro arrival arrived
        rw [ledger_concat, arrivals_append] at arrived
        rcases List.mem_append.1 arrived with earlier | later
        · exact unresumed arrival earlier
        · cases resumed : arrival.resumed with
          | false => rfl
          | true => exact absurd (Moment.undone_of_resumed later resumed) (done _)

/-- When the slot is released, the work that arrived last has been done by the last run. -/
theorem Uninterrupted.standing {system : System} {user : UserKey} (resting : system.Resting user)
    {events : List Event} (uninterrupted : Uninterrupted user (system.moments events))
    (requested : arrivals (ledger user (system.moments events)) ≠ [])
    (released : (system.run events).board.slots.slot user = .idle) :
    ∃ opener outcome newest found,
      (arrivals (ledger user (system.moments events))).getLast? = some newest ∧
        Standing user (system.run events) (system.moments events) opener (.over outcome)
          newest.work found none := by
  have nonempty : ledger user (system.moments events) ≠ [] := by
    intro nothing
    exact requested (by rw [nothing]; rfl)
  have completed (work : Work) (kept : Bool)
      (last : (ledger user (system.moments events)).getLast? = some (.interrupted work kept)) :
      ¬(kept = true → (user, work) ∈ (system.run events).undone) :=
    absurd (List.mem_of_getLast? last) (uninterrupted work kept)
  obtain ⟨opener, outcome, work, found, standing⟩ :=
    (Served.run resting events).standing_of_idle released nonempty completed
  obtain ⟨newest, last, rfl⟩ := standing.newest
  exact ⟨opener, outcome, newest, found, last, standing⟩

/-- The strand of some work has ended with an outcome; if the work arose from a failed look-up, it has
reported the failure instead. -/
def System.Returns (system : System) (arrival : Arrival) (outcome : Outcome) : Prop :=
  match arrival.failure with
  | none => system.strands[arrival.strand]? = some (.ended (.settled outcome))
  | some error => system.strands[arrival.strand]? = some (.ended (.refused (.lookup error)))

theorem System.returns_of_over {system : System} {arrival : Arrival} {outcome : Outcome}
    (strand : system.strands[arrival.strand]? =
      some (Strand.ofRunState arrival.failure (.over outcome))) :
    system.Returns arrival outcome := by
  unfold System.Returns
  cases failure : arrival.failure <;> rwa [failure] at strand

/-- The work that arrived last has prevailed for a user. -/
structure Prevails (user : UserKey) (system : System) (moments : List Moment) (newest : Arrival)
    (found : List Connection) : Prop where
  /-- The last marks are the arrival of the work and the beginning of its pass. -/
  last : ∃ earlier,
    ledger user moments = earlier ++ [.arrived newest, .began newest.work found]
  /-- The pass found the connections that were registered at the moment at which it began. -/
  registered : ∃ moment ∈ moments, found = moment.system.board.presence.connections user
  /-- Work that got no pass of its own was replaced by newer work. -/
  turn : InTurn (ledger user moments) none
  /-- The memberships of the connections found are as the work wants them. -/
  enforced : newest.work.Enforced system.board.directory system.board.groups found
  /-- The strand that opened the slot returns the outcome of that pass. -/
  reported : ∃ opener outcome,
    ((arrivals (ledger user moments)).filter Arrival.opens).getLast? = some opener ∧
      system.Returns opener outcome ∧
        outcome.Closes system.board.directory user newest.work found
  /-- Every strand that found the slot taken returns that its work was taken over. -/
  coalesced : ∀ arrival ∈ arrivals (ledger user moments), arrival.opens = false →
    system.Returns arrival .coalesced

/-- However many requests for a user are made, and at whatever moments of the passes under way, the
request made last prevails when the slot is released. -/
theorem newest_work_prevails {system : System} {user : UserKey} (resting : system.Resting user)
    (events : List Event) (uninterrupted : Uninterrupted user (system.moments events))
    (undisturbed : Undisturbed user (system.moments events))
    (requested : arrivals (ledger user (system.moments events)) ≠ [])
    (released : (system.run events).board.slots.slot user = .idle) :
    ∃ newest found, newest.resumed = false ∧
      Prevails user (system.run events) (system.moments events) newest found := by
  have turn := (Served.run resting events).inTurn_of_idle released
  have nonempty : ledger user (system.moments events) ≠ [] := by
    intro nothing
    exact requested (by rw [nothing]; rfl)
  have completed (work : Work) (kept : Bool) :
      (ledger user (system.moments events)).getLast? ≠ some (.interrupted work kept) :=
    fun last => uninterrupted work kept (List.mem_of_getLast? last)
  obtain ⟨earlier, newest, found, last⟩ := turn.last_pass nonempty completed
  obtain ⟨opener, outcome, other, connections, newest_eq, standing⟩ :=
    uninterrupted.standing resting requested released
  have arrived : newest ∈ arrivals (ledger user (system.moments events)) := by simp [last]
  have began : .began newest.work found ∈ ledger user (system.moments events) := by simp [last]
  have same : newest.work = other.work ∧ found = connections := by
    simpa [last] using standing.pass
  obtain ⟨same_work, rfl⟩ := same
  rw [← same_work] at standing
  refine ⟨newest, found, (uninterrupted.unresumed resting).2 newest arrived, ⟨earlier, last⟩,
    found_of_began began, turn, ?_, ?_, ?_⟩
  · exact undisturbed.enforced standing.pass standing.settled
  · exact ⟨opener, outcome, standing.opened, System.returns_of_over standing.strand,
      standing.closes⟩
  · exact fun arrival arrived parked =>
      System.returns_of_over (coalesced_run system user events arrived parked)

/-- A directory with one channel, which is granted to editors. -/
def newsroom : Directory := ⟨[Guard.ofRole "editors" "editor" [⟨"news"⟩]]⟩

/-- A user of the newsroom. -/
def firstUser : UserKey := ⟨1⟩

/-- Another user of the newsroom. -/
def secondUser : UserKey := ⟨2⟩

/-- A third user of the newsroom. -/
def thirdUser : UserKey := ⟨3⟩

/-- The first user with the role that the newsroom asks for. -/
def editor : Principal := (Principal.ofUser firstUser).withRole "editor"

/-- A system in which nothing was requested, over a link that carries every call. -/
def quietNewsroom : System :=
  System.initial (Switchboard.initial newsroom Limits.standard Link.clear)

theorem quietNewsroom_resting (user : UserKey) : quietNewsroom.Resting user :=
  System.resting_initial _ _ _ user

/-- While the memberships of an editor are refreshed, they are revoked; then the refresh goes on. -/
def supersededRefresh : List Event :=
  [.register firstUser ⟨"c1"⟩,
    .submit (.refresh editor),
    .perform 0 (.question ⟨"news"⟩) .through,
    .submit (.revokeUser firstUser),
    .perform 0 (.operation (.join ⟨"c1"⟩ ⟨"news"⟩)) .through,
    .perform 0 (.operation (.leave ⟨"c1"⟩ ⟨"news"⟩)) .through]

theorem revocation_prevails_in_newsroom :
    ∃ newest found,
      Prevails firstUser (quietNewsroom.run supersededRefresh)
        (quietNewsroom.moments supersededRefresh) newest found ∧
      newest.work = .revoke ∧ found = [⟨"c1"⟩] ∧
      (quietNewsroom.run supersededRefresh).board.groups.isMember ⟨"news"⟩ ⟨"c1"⟩ = false ∧
      (∃ report, (quietNewsroom.run supersededRefresh).strands[0]? =
        some (.ended (.settled (.revoked report)))) ∧
      (quietNewsroom.run supersededRefresh).strands[1]? = some (.ended (.settled .coalesced)) := by
  obtain ⟨newest, found, -, prevails⟩ :=
    newest_work_prevails (quietNewsroom_resting firstUser) supersededRefresh
      (uninterrupted_of_events _ _ (by simp [supersededRefresh]))
      (undisturbed_of_attempts (by simp [supersededRefresh]) (by decide +kernel))
      (by decide +kernel) (by decide +kernel)
  obtain ⟨earlier, last⟩ := prevails.last
  have pass : (passes (ledger firstUser (quietNewsroom.moments supersededRefresh))).getLast? =
      some (.revoke, [⟨"c1"⟩]) := by decide +kernel
  obtain ⟨revoked, rfl⟩ : newest.work = .revoke ∧ found = [⟨"c1"⟩] := by simpa [last] using pass
  refine ⟨newest, _, prevails, revoked, rfl, ?_, ?_, ?_⟩
  · have enforced := prevails.enforced
    rw [revoked] at enforced
    exact enforced ⟨"c1"⟩ List.mem_cons_self ⟨"news"⟩ (by decide +kernel)
  · obtain ⟨opener, outcome, opened, returned, closes⟩ := prevails.reported
    have first : ((arrivals (ledger firstUser (quietNewsroom.moments supersededRefresh))).filter
        Arrival.opens).getLast? = some ⟨firstUser, .reconcile editor, none, 0, false, true⟩ := by
      decide +kernel
    cases opened.symm.trans first
    rw [revoked] at closes
    cases outcome with
    | revoked report => exact ⟨report, returned⟩
    | noConnections => exact absurd rfl closes.1
    | applied report => exact absurd rfl closes.1
    | coalesced => exact closes.elim
  · exact prevails.coalesced ⟨firstUser, .revoke, none, 1, false, false⟩ (by decide +kernel) rfl

end ChannelMembership
