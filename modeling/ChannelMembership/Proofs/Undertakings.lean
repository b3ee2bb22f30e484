import ChannelMembership.Proofs.Switchboard.Guidance
import ChannelMembership.Proofs.Switchboard.Soundness

/-!
# Undertakings at the hub

Connections are set up and hang up, and permissions change, one undertaking after the other.  Each
undertaking has an effect on the seat of a connection, that is, on whether it is registered under a
user and on its memberships.  An undertaking that does not concern the user has none, and whether a
connection is registered depends on the undertakings to which it is a party.
-/

namespace ChannelMembership

/-- What is undertaken at the hub. -/
inductive Undertaking where
  /-- A connection is set up for a principal. -/
  | connect (principal : Principal) (connection : Connection)
  /-- A connection is removed from its user, and the transport closes it. -/
  | hangUp (user : UserKey) (connection : Connection)
  /-- Permissions change. -/
  | change (audience : Audience)

namespace Undertaking

/-- The connection that comes or goes, and its user. -/
def party? : Undertaking → Option (UserKey × Connection)
  | connect principal connection => principal.user.map fun user => (user, connection)
  | hangUp user connection => some (user, connection)
  | change _ => none

/-- What remains of an undertaking when it is cut down to one user: other users are dropped from the
list of a permission change, and undertakings of other users are dropped altogether. -/
def concerning (user : UserKey) : Undertaking → Option Undertaking
  | connect principal connection =>
    if principal.user = some user then some (connect principal connection) else none
  | hangUp other connection => if other = user then some (hangUp other connection) else none
  | change (.listed users) => if user ∈ users then some (change (.listed [user])) else none
  | change .everybody => some (change .everybody)

/-- What remains for a user tells which connections of the user come and go. -/
theorem party_concerning (undertakings : List Undertaking) (user : UserKey)
    (connection : Connection) :
    (user, connection) ∈ (undertakings.filterMap (concerning user)).filterMap party? ↔
      (user, connection) ∈ undertakings.filterMap party? := by
  have same (undertaking : Undertaking) :
      (undertaking.concerning user).bind party? = some (user, connection) ↔
        undertaking.party? = some (user, connection) := by
    cases undertaking with
    | connect principal other =>
        by_cases mine : principal.user = some user <;> simp [concerning, party?, mine]
    | hangUp other another => by_cases mine : other = user <;> simp [concerning, party?, mine]
    | change audience =>
        cases audience with
        | everybody => rfl
        | listed users => by_cases among : user ∈ users <;> simp [concerning, party?, among]
  rw [List.filterMap_filterMap]
  simp only [List.mem_filterMap, same]

/-- The events with which an undertaking begins. -/
inductive Begins : Undertaking → List Event → Prop
  /-- A request is made. -/
  | connect (principal : Principal) (connection : Connection) :
    Begins (connect principal connection) [.submit (.connect principal connection)]
  /-- A request is made. -/
  | change (audience : Audience) : Begins (change audience) [.submit (.change audience)]
  /-- The transport closes the connection when it has been removed. -/
  | hangUp (user : UserKey) (connection : Connection) :
    Begins (hangUp user connection) [.disconnect user connection, .close connection]
  /-- The connection is removed when the transport has closed it. -/
  | cutOff (user : UserKey) (connection : Connection) :
    Begins (hangUp user connection) [.close connection, .disconnect user connection]

end Undertaking

/-- An event by which undertakings go on within their time, or which concerns notices only. -/
def Event.Answers : Event → Prop
  | visit _ => True
  | perform _ _ _ => True
  | «open» _ => True
  | take _ => True
  | dropReceiver _ => True
  | _ => False

theorem Event.Answers.goesOn {event : Event} (answers : event.Answers) : event.GoesOn := by
  cases event <;> trivial

/-- Events among which every undertaking is over before the next one begins. -/
inductive Sequential : System → List Undertaking → List Event → Prop
  /-- Nothing more happens. -/
  | done (system : System) : Sequential system [] []
  /-- An undertaking begins when all others are over. -/
  | undertake {system : System} {undertaking : Undertaking} {undertakings : List Undertaking}
    {opening rest : List Event} (quiet : system.isQuiet = true)
    (begins : undertaking.Begins opening)
    (after : Sequential (system.run opening) undertakings rest) :
    Sequential system (undertaking :: undertakings) (opening ++ rest)
  /-- An undertaking goes on. -/
  | answer {system : System} {undertakings : List Undertaking} {event : Event} {rest : List Event}
    (answers : event.Answers) (after : Sequential (system.step event) undertakings rest) :
    Sequential system undertakings (event :: rest)

/-- Whether a connection is registered under a user, and its memberships. -/
structure Seat where
  /-- Whether it is registered. -/
  registered : Bool
  /-- The channels it is in. -/
  memberships : Channel → Bool

/-- The seat of a connection that has not come yet, or that has gone. -/
def Seat.empty : Seat := ⟨false, fun _ => false⟩

section Effect

variable (directory : Directory) (account : Account) (user : UserKey) (connection : Connection)

/-- The effect of an undertaking on the seat of a connection under a user. -/
def Undertaking.effect (seat : Seat) : Undertaking → Seat
  | connect principal other =>
    if principal.user = some user ∧ other = connection then
      ⟨true, directory.joined principal seat.memberships⟩
    else seat
  | hangUp other another => if other = user ∧ another = connection then Seat.empty else seat
  | change audience =>
    if seat.registered && audience.concerns user then
      { seat with memberships := (account.demand user).1.result directory seat.memberships }
    else seat

/-- The effect of undertakings one after the other. -/
def Undertaking.effects (seat : Seat) (undertakings : List Undertaking) : Seat :=
  undertakings.foldl (Undertaking.effect directory account user connection) seat

@[simp]
theorem Undertaking.effects_nil (seat : Seat) :
    effects directory account user connection seat [] = seat := rfl

@[simp]
theorem Undertaking.effects_cons (seat : Seat) (undertaking : Undertaking)
    (undertakings : List Undertaking) :
    effects directory account user connection seat (undertaking :: undertakings) =
      effects directory account user connection
        (undertaking.effect directory account user connection seat) undertakings := rfl

/-- Only what remains of an undertaking for the user has an effect. -/
theorem Undertaking.effect_concerning (seat : Seat) (undertaking : Undertaking) :
    (undertaking.concerning user).elim seat (effect directory account user connection seat) =
      undertaking.effect directory account user connection seat := by
  cases undertaking with
  | connect principal other =>
      by_cases mine : principal.user = some user <;> simp [concerning, effect, mine]
  | hangUp other another => by_cases mine : other = user <;> simp [concerning, effect, mine]
  | change audience =>
      cases audience with
      | everybody => rfl
      | listed users =>
          by_cases among : user ∈ users <;> simp [concerning, effect, Audience.concerns, among]

theorem Undertaking.effects_concerning (seat : Seat) (undertakings : List Undertaking) :
    effects directory account user connection seat (undertakings.filterMap (concerning user)) =
      effects directory account user connection seat undertakings := by
  induction undertakings generalizing seat with
  | nil => rfl
  | cons undertaking rest induction =>
      have one := effect_concerning directory account user connection seat undertaking
      rw [effects_cons, ← one]
      cases remains : undertaking.concerning user with
      | none => rw [List.filterMap_cons_none remains, induction, Option.elim_none]
      | some remainder =>
          rw [List.filterMap_cons_some remains, effects_cons, induction, Option.elim_some]

end Effect

section Registered

variable (directory : Directory) (account : Account) {user : UserKey} {connection : Connection}
  {seat : Seat}

/-- Whether a connection is registered when an undertaking has begun. -/
theorem Undertaking.Begins.contains_run {undertaking : Undertaking} {opening : List Event}
    (begins : undertaking.Begins opening) {system : System}
    (registered : system.board.presence.contains user connection = seat.registered) :
    (system.run opening).board.presence.contains user connection =
      (undertaking.effect directory account user connection seat).registered := by
  have gone {presence : Presence} {other : UserKey} {another : Connection}
      (removed : presence = system.board.presence.remove other another) :
      presence.contains user connection =
        (Undertaking.effect directory account user connection seat
          (.hangUp other another)).registered := by
    by_cases mine : other = user ∧ another = connection
    · obtain ⟨rfl, rfl⟩ := mine
      rw [removed, Bool.eq_iff_iff]
      simp [effect, Seat.empty]
    · have apart : ¬(user = other ∧ connection = another) :=
        fun same => mine ⟨same.1.symm, same.2.symm⟩
      rw [removed, Bool.eq_iff_iff, Presence.contains_remove, registered]
      simp [effect, mine, apart]
  cases begins with
  | change audience =>
      have presence := system.step_presence (.submit (.change audience))
      simp only at presence
      rw [System.run_cons, System.run_nil, presence, registered, effect]
      split <;> rfl
  | connect principal other =>
      have presence := system.step_presence (.submit (.connect principal other))
      obtain ⟨known, claims⟩ := principal
      cases known with
      | none =>
          rw [System.run_cons, System.run_nil, presence, registered]
          simp [effect]
      | some mine =>
          rw [System.run_cons, System.run_nil, presence, Bool.eq_iff_iff, Presence.contains_add,
            registered]
          by_cases same : mine = user ∧ other = connection
          · obtain ⟨rfl, rfl⟩ := same
            simp [effect]
          · have apart : ¬(user = mine ∧ connection = other) :=
              fun here => same ⟨here.1.symm, here.2.symm⟩
            simp [effect, same, apart]
  | hangUp other another => exact gone rfl
  | cutOff other another => exact gone rfl

/-- Whether a connection is registered can be told by going through the undertakings. -/
theorem Sequential.contains_run {system : System} {undertakings : List Undertaking}
    {events : List Event} (sequential : Sequential system undertakings events)
    (registered : system.board.presence.contains user connection = seat.registered) :
    (system.run events).board.presence.contains user connection =
      (Undertaking.effects directory account user connection seat undertakings).registered := by
  induction sequential generalizing seat with
  | done system => exact registered
  | undertake quiet begins after induction =>
      rw [System.run_append]
      exact induction (begins.contains_run directory account registered)
  | @answer system undertakings event rest answers after induction =>
      have presence : (system.step event).board.presence = system.board.presence :=
        @Moment.presence_next_of_goesOn ⟨system, event⟩ answers.goesOn
      exact induction (by rwa [presence])

/-- A connection is registered only if it is a party to an undertaking. -/
theorem Undertaking.party_of_registered {undertakings : List Undertaking}
    (registered : (effects directory account user connection seat undertakings).registered = true) :
    seat.registered = true ∨ (user, connection) ∈ undertakings.filterMap party? := by
  induction undertakings generalizing seat with
  | nil => exact .inl registered
  | cons undertaking rest induction =>
      rcases induction registered with earlier | later
      · cases undertaking with
        | connect principal other =>
            by_cases mine : principal.user = some user ∧ other = connection
            · exact .inr (List.mem_filterMap.2 ⟨_, List.mem_cons_self, by simp [party?, mine]⟩)
            · exact .inl (by simpa [effect, mine] using earlier)
        | hangUp other another =>
            by_cases mine : other = user ∧ another = connection
            · exact .inr (List.mem_filterMap.2 ⟨_, List.mem_cons_self, by simp [party?, mine]⟩)
            · exact .inl (by simpa [effect, mine] using earlier)
        | change audience =>
            refine .inl (Eq.trans ?_ earlier)
            rw [effect]
            split <;> rfl
      · obtain ⟨undertaking', member, party⟩ := List.mem_filterMap.1 later
        exact .inr (List.mem_filterMap.2 ⟨undertaking', List.mem_cons_of_mem _ member, party⟩)

end Registered
end ChannelMembership
