import ChannelMembership.Proofs.Access.Authorization
import ChannelMembership.Proofs.Underway

/-!
# Users do not interfere

Undertakings at the hub are accomplished one after the other.  The final state of the connections of
a user is then a function of those undertakings that concern the user, each cut down to this user.
Two runs in which these agree leave the user with the same connections and the same memberships.
-/

namespace ChannelMembership

/-- Undertakings are accomplished from the beginning to the end: one after the other, no call to the
transport fails, and no connection is used by two users. -/
structure Accomplished (system : System) (undertakings : List Undertaking) (events : List Event) :
    Prop where
  /-- Nothing has happened before. -/
  fresh : system.Fresh
  /-- The undertakings follow one another. -/
  sequential : Sequential system undertakings events
  /-- The last one is over. -/
  quiet : (system.run events).isQuiet = true
  /-- Whatever is attempted is carried out. -/
  delivered : ∀ moment ∈ system.moments events, ∀ found ∈ moment.attempt?,
    found.2.2.delivery = .ok ()
  /-- A connection is used by one user. -/
  exclusive : ∀ first ∈ undertakings.filterMap Undertaking.party?,
    ∀ second ∈ undertakings.filterMap Undertaking.party?,
      first.2 = second.2 → first.1 = second.1

theorem System.Fresh.underway {system : System} (fresh : system.Fresh) (user : UserKey)
    (connection : Connection) :
    Underway system.board.directory (system.board.accounts user) user connection system []
      Seat.empty where
  directory_eq := rfl
  account_eq := rfl
  registered := fresh.presence user connection
  owned := by
    intro other registered
    rw [fresh.presence] at registered
    cases registered
  onCourse := by
    rw [fresh.strands]
    nofun
  alone := by
    rw [fresh.strands]
    nofun
  settled := fun _ => funext fun channel => fresh.groups channel connection
  served := fun other => fresh.sound.served other

namespace Accomplished

variable {system : System} {undertakings : List Undertaking} {events : List Event}

/-- A connection is registered under a user if the undertakings say so. -/
theorem contains_run (accomplished : Accomplished system undertakings events) (user : UserKey)
    (connection : Connection) :
    (system.run events).board.presence.contains user connection =
      (Undertaking.effects system.board.directory (system.board.accounts user) user connection
        Seat.empty undertakings).registered :=
  accomplished.sequential.contains_run _ _ (accomplished.fresh.presence user connection)

/-- The memberships of a user's connection are those to which the undertakings lead. -/
theorem memberships_run (accomplished : Accomplished system undertakings events) {user : UserKey}
    {connection : Connection}
    (party : (user, connection) ∈ undertakings.filterMap Undertaking.party?) :
    (system.run events).board.memberships connection =
      (Undertaking.effects system.board.directory (system.board.accounts user) user connection
        Seat.empty undertakings).memberships := by
  have underway := Underway.run accomplished.sequential
    (accomplished.fresh.underway user connection) accomplished.delivered fun other also =>
      accomplished.exclusive _ also _ party rfl
  exact underway.reached accomplished.quiet

end Accomplished

theorem Presence.connections_eq {presence presence' : Presence} {user : UserKey}
    (same : ∀ connection, presence'.contains user connection = presence.contains user connection) :
    presence'.connections user = presence.connections user := by
  refine (strict_sortedSet _).eq_of_mem_iff (strict_sortedSet _) fun connection => ?_
  exact (mem_connections _ _ _).trans ((Bool.eq_iff_iff.1 (same connection)).trans
    (mem_connections _ _ _).symm)

/-- What becomes of a user's connections depends only on the undertakings that concern this user:
the others may be left out, added or done in another order, and other users may be dropped from the
list of a permission change. -/
theorem users_do_not_interfere {system system' : System}
    {undertakings undertakings' : List Undertaking} {events events' : List Event} (user : UserKey)
    (accomplished : Accomplished system undertakings events)
    (accomplished' : Accomplished system' undertakings' events')
    (directory : system'.board.directory = system.board.directory)
    (accounts : system'.board.accounts user = system.board.accounts user)
    (same : undertakings'.filterMap (Undertaking.concerning user) =
      undertakings.filterMap (Undertaking.concerning user)) :
    (system'.run events').board.presence.connections user =
        (system.run events).board.presence.connections user ∧
      ∀ connection,
        (system.run events).board.presence.contains user connection = true ∨
          (user, connection) ∈ undertakings.filterMap Undertaking.party? →
        ∀ channel,
          (system'.run events').board.groups.isMember channel connection =
            (system.run events).board.groups.isMember channel connection := by
  have effects (connection : Connection) :
      Undertaking.effects system'.board.directory (system'.board.accounts user) user connection
          Seat.empty undertakings' =
        Undertaking.effects system.board.directory (system.board.accounts user) user connection
          Seat.empty undertakings := by
    rw [directory, accounts, ← Undertaking.effects_concerning _ _ _ _ _ undertakings', same,
      Undertaking.effects_concerning]
  refine ⟨?_, fun connection mine channel => ?_⟩
  · refine Presence.connections_eq fun connection => ?_
    rw [accomplished.contains_run, accomplished'.contains_run, effects]
  · have party : (user, connection) ∈ undertakings.filterMap Undertaking.party? := by
      refine mine.elim (fun registered => ?_) id
      rw [accomplished.contains_run] at registered
      exact (Undertaking.party_of_registered _ _ registered).resolve_left nofun
    have party' : (user, connection) ∈ undertakings'.filterMap Undertaking.party? := by
      rwa [← Undertaking.party_concerning, same, Undertaking.party_concerning]
    have memberships := accomplished.memberships_run party
    rw [← effects, ← accomplished'.memberships_run party'] at memberships
    exact congrFun memberships.symm channel

/-- The newsroom with an account store that knows the editor. -/
def staffedNewsroom : System := quietNewsroom.step (.setAccount firstUser (.known editor))

/-- An editor and another user are connected when their permissions change, and the other one hangs
up. -/
def sharedDay : List Event :=
  [.submit (.connect editor ⟨"c1"⟩),
    .perform 0 (.question ⟨"news"⟩) .through,
    .perform 0 (.operation (.join ⟨"c1"⟩ ⟨"news"⟩)) .through,
    .submit (.connect (Principal.ofUser secondUser) ⟨"c2"⟩),
    .perform 1 (.question ⟨"news"⟩) .through,
    .submit (.change (.listed [secondUser, firstUser])),
    .visit 2,
    .visit 3,
    .perform 3 .account .through,
    .perform 2 .account .through,
    .perform 2 (.question ⟨"news"⟩) .through,
    .perform 3 (.operation (.leave ⟨"c2"⟩ ⟨"news"⟩)) .through,
    .perform 2 (.operation (.join ⟨"c1"⟩ ⟨"news"⟩)) .through,
    .disconnect secondUser ⟨"c2"⟩,
    .close ⟨"c2"⟩]

/-- An editor is connected when permissions change. -/
def lonelyDay : List Event :=
  [.submit (.connect editor ⟨"c1"⟩),
    .perform 0 (.question ⟨"news"⟩) .through,
    .perform 0 (.operation (.join ⟨"c1"⟩ ⟨"news"⟩)) .through,
    .submit (.change (.listed [firstUser])),
    .visit 1,
    .perform 1 .account .through,
    .perform 1 (.question ⟨"news"⟩) .through,
    .perform 1 (.operation (.join ⟨"c1"⟩ ⟨"news"⟩)) .through]

theorem sharedDay_accomplished : Accomplished staffedNewsroom
    [.connect editor ⟨"c1"⟩, .connect (Principal.ofUser secondUser) ⟨"c2"⟩,
      .change (.listed [secondUser, firstUser]), .hangUp secondUser ⟨"c2"⟩] sharedDay where
  fresh := ⟨rfl, fun _ => rfl, fun _ _ => rfl, fun _ _ => rfl⟩
  sequential :=
    .undertake rfl (.connect _ _) (.answer trivial (.answer trivial
      (.undertake (by decide +kernel) (.connect _ _) (.answer trivial
        (.undertake (by decide +kernel) (.change _)
          (.answer trivial (.answer trivial (.answer trivial (.answer trivial (.answer trivial
            (.answer trivial (.answer trivial
              (.undertake (by decide +kernel) (.hangUp _ _) (.done _))))))))))))))
  quiet := by decide +kernel
  delivered := by decide +kernel
  exclusive := by decide +kernel

theorem lonelyDay_accomplished : Accomplished staffedNewsroom
    [.connect editor ⟨"c1"⟩, .change (.listed [firstUser])] lonelyDay where
  fresh := ⟨rfl, fun _ => rfl, fun _ _ => rfl, fun _ _ => rfl⟩
  sequential :=
    .undertake rfl (.connect _ _) (.answer trivial (.answer trivial
      (.undertake (by decide +kernel) (.change _)
        (.answer trivial (.answer trivial (.answer trivial (.answer trivial (.done _))))))))
  quiet := by decide +kernel
  delivered := by decide +kernel
  exclusive := by decide +kernel

theorem editor_undisturbed_in_newsroom :
    (staffedNewsroom.run lonelyDay).board.presence.connections firstUser =
        (staffedNewsroom.run sharedDay).board.presence.connections firstUser ∧
      (staffedNewsroom.run lonelyDay).board.groups.isMember ⟨"news"⟩ ⟨"c1"⟩ =
        (staffedNewsroom.run sharedDay).board.groups.isMember ⟨"news"⟩ ⟨"c1"⟩ := by
  have undisturbed := users_do_not_interfere firstUser sharedDay_accomplished
    lonelyDay_accomplished rfl rfl rfl
  exact ⟨undisturbed.1, undisturbed.2 ⟨"c1"⟩ (.inl (by decide +kernel)) ⟨"news"⟩⟩

end ChannelMembership
