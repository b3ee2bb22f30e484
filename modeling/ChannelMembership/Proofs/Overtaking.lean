import ChannelMembership.Proofs.NewestWork

/-!
# Requests that are overtaken

A pass always does the work that arrived last.  A request for a user who is offline does not arrive,
so it does not replace what is parked in the slot: if the user comes back before the pass under way
is over, the next pass does work that was requested before.
-/

namespace ChannelMembership

/-- The work that is requested for a user at the moment, whether or not the user is online. -/
def Moment.requested? (moment : Moment) : Option (UserKey × Work) :=
  match moment.event with
  | .submit (.refresh principal) => principal.user.map fun user => (user, .reconcile principal)
  | .submit (.revokeUser user) => some (user, .revoke)
  | .perform position .account _ =>
    match moment.system.strands[position]? with
    | some (.lookingUp user) => some (user, ((moment.system.board.accounts user).demand user).1)
    | _ => none
  | _ => none

/-- Among these marks a pass begins before anything has arrived, so it does older work. -/
def Overtaken (since : List Mark) : Prop :=
  ∃ earlier work found later,
    since = earlier ++ .began work found :: later ∧ arrivals earlier = []

/-- Work requested for a user who is online arrives. -/
theorem Moment.arrives_of_requested {moment : Moment} {user : UserKey} {work : Work}
    (requested : moment.requested? = some (user, work))
    (online : moment.system.board.presence.isOnline user = true) :
    ∃ arrival, moment.arrival? = some arrival ∧ arrival.user = user ∧ arrival.work = work := by
  unfold requested? at requested
  split at requested
  · rename_i principal event
    obtain ⟨other, known, same⟩ := Option.map_eq_some_iff.1 requested
    cases same
    refine ⟨moment.arrivalOf moment.system.strands.length user (.reconcile principal, none) false,
      ?_, rfl, rfl⟩
    simp [arrival?, event, known, request?, online]
  · rename_i other event
    cases requested
    refine ⟨moment.arrivalOf moment.system.strands.length user (.revoke, none) false, ?_, rfl, rfl⟩
    simp [arrival?, event, request?, online]
  · rename_i position passage event
    split at requested
    · rename_i other found
      cases requested
      refine ⟨moment.arrivalOf position user ((moment.system.board.accounts user).demand user) false,
        ?_, rfl, rfl⟩
      simp [arrival?, event, found, request?, online]
    · cases requested
  · cases requested

/-- What a mark does to the work that waits. -/
def Mark.Turns : Mark → Option Work → Option Work → Prop
  | arrived arrival, _, after => after = some arrival.work
  | began work _, before, after => before = some work ∧ after = none
  | interrupted _ _, _, after => after = none

namespace InTurn

variable {ledger : List Mark} {waiting : Option Work}

theorem of_concat {earlier : List Mark} {mark : Mark}
    (turn : InTurn (earlier ++ [mark]) waiting) :
    ∃ before, InTurn earlier before ∧ mark.Turns before waiting := by
  generalize equal : earlier ++ [mark] = ledger at turn
  cases turn with
  | nil => simp at equal
  | arrived arrival before =>
      obtain ⟨rfl, same⟩ := List.append_inj' equal rfl
      cases same
      exact ⟨_, before, rfl⟩
  | began found before =>
      obtain ⟨rfl, same⟩ := List.append_inj' equal rfl
      cases same
      exact ⟨_, before, rfl, rfl⟩
  | interrupted work kept before =>
      obtain ⟨rfl, same⟩ := List.append_inj' equal rfl
      cases same
      exact ⟨_, before, rfl⟩

/-- What waits is the work that arrived last, and nothing has happened since. -/
theorem last_arrived {work : Work} (turn : InTurn ledger (some work)) :
    ∃ earlier arrival, ledger = earlier ++ [.arrived arrival] ∧ arrival.work = work := by
  cases turn with
  | arrived arrival before => exact ⟨_, arrival, rfl, rfl⟩

/-- Work is done in turn up to any mark. -/
theorem take {earlier later : List Mark} (turn : InTurn (earlier ++ later) waiting) :
    ∃ before, InTurn earlier before := by
  induction later using List.reverseRecOn generalizing waiting with
  | nil => exact ⟨waiting, by simpa using turn⟩
  | append_singleton later mark induction =>
      rw [← List.append_assoc] at turn
      obtain ⟨before, turn, -⟩ := turn.of_concat
      exact induction turn

/-- Right before a pass begins, its work has arrived. -/
theorem arrived_before_began {earlier later : List Mark} {work : Work} {found : List Connection}
    (turn : InTurn (earlier ++ .began work found :: later) waiting) :
    ∃ before arrival, earlier = before ++ [.arrived arrival] ∧ arrival.work = work := by
  rw [List.append_cons] at turn
  obtain ⟨after, turn⟩ := turn.take
  obtain ⟨before, turn, rfl, -⟩ := turn.of_concat
  exact turn.last_arrived

end InTurn

namespace Served

variable {user : UserKey} {system : System} {moments : List Moment}

theorem inTurn (served : Served user system moments) :
    ∃ waiting, InTurn (ledger user moments) waiting := by
  cases served with
  | untouched idle unserved nothing => exact ⟨none, nothing ▸ .nil⟩
  | interrupted idle unserved last undone turn => exact ⟨none, turn⟩
  | standing standing => exact ⟨_, standing.turn⟩

/-- Work that arrived last, with nothing happening since, is parked in the slot. -/
theorem parked_of_last_arrived (served : Served user system moments) {earlier : List Mark}
    {arrival : Arrival} (last : ledger user moments = earlier ++ [.arrived arrival]) :
    system.board.slots.slot user = .running (some arrival.work) := by
  cases served with
  | untouched idle unserved nothing => simp [last] at nothing
  | interrupted idle unserved last' undone turn =>
      rw [last'] at last
      obtain ⟨-, same⟩ := List.append_inj' last rfl
      cases same
  | standing standing =>
      have turn := standing.turn
      rw [last] at turn
      obtain ⟨before, -, rfl⟩ := turn.of_concat
      cases standing.stands with
      | active held going serves => exact held

theorem last_arrived_of_parked (served : Served user system moments) {work : Work}
    (parked : system.board.slots.slot user = .running (some work)) :
    ∃ earlier arrival,
      ledger user moments = earlier ++ [.arrived arrival] ∧ arrival.work = work := by
  cases served with
  | untouched idle unserved nothing => cases idle.symm.trans parked
  | interrupted idle unserved last undone turn => cases idle.symm.trans parked
  | standing standing =>
      have turn := standing.turn
      cases standing.stands with
      | active held going serves =>
          cases held.symm.trans parked
          exact turn.last_arrived
      | concluded idle closes settled => cases idle.symm.trans parked

end Served

section Overtaking

variable {system : System} {user : UserKey} {before after : List Event} {event : Event}
  {work : Work}

/-- A pass that does older work begins before anything else happens, and its work was parked when the
request found the user offline. -/
theorem parked_of_overtaken (resting : system.Resting user)
    (requested : Moment.requested? ⟨system.run before, event⟩ = some (user, work))
    (overtaken : Overtaken (ledger user ((system.run before).moments (event :: after)))) :
    (system.run before).board.presence.isOnline user = false ∧
      ∃ parked found later,
        (system.run before).board.slots.slot user = .running (some parked) ∧
          ledger user ((system.run before).moments (event :: after)) =
            .began parked found :: later := by
  obtain ⟨earlier, applied, found, later, since, nothing⟩ := overtaken
  obtain ⟨waiting, turn⟩ := (Served.run resting (before ++ event :: after)).inTurn
  rw [System.moments_append, ledger_append, since, ← List.append_assoc] at turn
  obtain ⟨marks, arrival, last, rfl⟩ := turn.arrived_before_began
  -- the work arrived right before the pass, hence before the request
  obtain rfl : earlier = [] := by
    rcases List.eq_nil_or_concat earlier with none | ⟨front, mark, rfl⟩
    · exact none
    · rw [List.concat_eq_append, ← List.append_assoc] at last
      obtain ⟨-, same⟩ := List.append_inj' last rfl
      cases same
      simp at nothing
  rw [List.append_nil] at last
  refine ⟨?_, arrival.work, found, later,
    (Served.run resting before).parked_of_last_arrived last, since⟩
  cases online : (system.run before).board.presence.isOnline user with
  | false => rfl
  | true =>
      obtain ⟨newer, arrived, mine, -⟩ := Moment.arrives_of_requested requested online
      have marked := Moment.marks_of_arrival arrived mine
      simp only [System.moments, ledger, List.flatMap_cons] at since
      rw [marked] at since
      split at since <;> cases since

/-- What is parked when the slot is given back in the end has been replaced or done. -/
theorem overtaken_or_replaced (resting : system.Resting user) {parked : Work}
    (waits : (system.run before).board.slots.slot user = .running (some parked))
    (uninterrupted : Uninterrupted user (system.moments (before ++ event :: after)))
    (released : (system.run (before ++ event :: after)).board.slots.slot user = .idle) :
    (∃ found later, ledger user ((system.run before).moments (event :: after)) =
        .began parked found :: later) ∨
      ∃ arrival later, ledger user ((system.run before).moments (event :: after)) =
        .arrived arrival :: later := by
  obtain ⟨earlier, arrival, last, rfl⟩ :=
    (Served.run resting before).last_arrived_of_parked waits
  have turn := (Served.run resting (before ++ event :: after)).inTurn_of_idle released
  have whole : ledger user (system.moments (before ++ event :: after)) =
      ledger user (system.moments before) ++
        ledger user ((system.run before).moments (event :: after)) := by
    rw [System.moments_append, ledger_append]
  rw [whole] at turn
  cases since : ledger user ((system.run before).moments (event :: after)) with
  | nil =>
      rw [since, List.append_nil, last] at turn
      obtain ⟨waiting, -, waits⟩ := turn.of_concat
      cases waits
  | cons mark later =>
      cases mark with
      | arrived newer => exact .inr ⟨newer, later, rfl⟩
      | began applied found =>
          rw [since] at turn
          obtain ⟨front, done, last', rfl⟩ := turn.arrived_before_began
          rw [last] at last'
          obtain ⟨-, same⟩ := List.append_inj' last' rfl
          cases same
          exact .inl ⟨found, later, rfl⟩
      | interrupted given kept =>
          refine absurd ?_ (uninterrupted given kept)
          rw [whole, since]
          exact List.mem_append_right _ List.mem_cons_self

/-- Every pass does the work that arrived last.  A request is overtaken by work that was requested
before it exactly if it found the user offline while that work was parked, and nothing newer arrives
before the pass under way is over; the connections that the next pass finds are then as the older
work wants them, whenever they were registered. -/
theorem overtaken_iff_offline_behind_parked (resting : system.Resting user)
    (requested : Moment.requested? ⟨system.run before, event⟩ = some (user, work))
    (uninterrupted : Uninterrupted user (system.moments (before ++ event :: after)))
    (released : (system.run (before ++ event :: after)).board.slots.slot user = .idle) :
    (∀ earlier applied found later,
        ledger user ((system.run before).moments (event :: after)) =
            earlier ++ .began applied found :: later →
          ∃ arrival, (arrivals (ledger user (system.moments before) ++ earlier)).getLast? =
            some arrival ∧ arrival.work = applied) ∧
      (Overtaken (ledger user ((system.run before).moments (event :: after))) ↔
        (system.run before).board.presence.isOnline user = false ∧
          (∃ parked, (system.run before).board.slots.slot user = .running (some parked)) ∧
            ∀ arrival later, ledger user ((system.run before).moments (event :: after)) ≠
              .arrived arrival :: later) ∧
      ∀ parked found, (system.run before).board.slots.slot user = .running (some parked) →
        ledger user ((system.run before).moments (event :: after)) = [.began parked found] →
          Undisturbed user (system.moments (before ++ event :: after)) →
            parked.Enforced system.board.directory
              (system.run (before ++ event :: after)).board.groups found := by
  have whole : ledger user (system.moments (before ++ event :: after)) =
      ledger user (system.moments before) ++
        ledger user ((system.run before).moments (event :: after)) := by
    rw [System.moments_append, ledger_append]
  refine ⟨fun earlier applied found later since => ?_, ⟨fun overtaken => ?_, ?_⟩, ?_⟩
  · obtain ⟨waiting, turn⟩ := (Served.run resting (before ++ event :: after)).inTurn
    rw [whole, since, ← List.append_assoc] at turn
    obtain ⟨front, arrival, last, same⟩ := turn.arrived_before_began
    exact ⟨arrival, by simp [last], same⟩
  · obtain ⟨offline, parked, found, later, waits, since⟩ :=
      parked_of_overtaken resting requested overtaken
    refine ⟨offline, ⟨parked, waits⟩, fun arrival rest newer => ?_⟩
    rw [since] at newer
    cases newer
  · rintro ⟨-, ⟨parked, waits⟩, unreplaced⟩
    rcases overtaken_or_replaced resting waits uninterrupted released with
      ⟨found, later, since⟩ | ⟨arrival, later, since⟩
    · exact ⟨[], parked, found, later, since, rfl⟩
    · exact absurd since (unreplaced arrival later)
  · intro parked found waits since undisturbed
    have began : .began parked found ∈ ledger user (system.moments (before ++ event :: after)) := by
      simp [whole, since]
    obtain ⟨earlier, arrival, last, -⟩ := (Served.run resting before).last_arrived_of_parked waits
    have arrived : arrivals (ledger user (system.moments (before ++ event :: after))) ≠ [] := by
      simp [whole, last]
    obtain ⟨opener, outcome, newest, connections, -, standing⟩ :=
      uninterrupted.standing resting arrived released
    obtain ⟨rfl, rfl⟩ : parked = newest.work ∧ found = connections := by
      simpa [whole, since] using standing.pass
    have enforced := undisturbed.enforced standing.pass standing.settled
    rwa [System.run_directory] at enforced

end Overtaking

/-- While a plain user is refreshed, a refresh as an editor is parked, and the connection goes. -/
def parkedThenOffline : List Event :=
  [.register firstUser ⟨"c1"⟩,
    .submit (.refresh (Principal.ofUser firstUser)),
    .submit (.refresh editor),
    .disconnect firstUser ⟨"c1"⟩]

/-- The plain user connects again before the refresh under way is over. -/
def backOnline : List Event :=
  [.submit (.connect (Principal.ofUser firstUser) ⟨"c2"⟩),
    .perform 3 (.question ⟨"news"⟩) .through,
    .perform 0 (.question ⟨"news"⟩) .through,
    .perform 0 (.operation (.leave ⟨"c1"⟩ ⟨"news"⟩)) .through,
    .perform 0 (.question ⟨"news"⟩) .through,
    .perform 0 (.operation (.join ⟨"c2"⟩ ⟨"news"⟩)) .through]

theorem undisturbed_backOnline :
    Undisturbed firstUser (quietNewsroom.moments
      (parkedThenOffline ++ .submit (.revokeUser firstUser) :: backOnline)) :=
  undisturbed_of_attempts (by simp [parkedThenOffline, backOnline]) (by decide +kernel)

theorem revocation_overtaken_in_newsroom :
    Overtaken (ledger firstUser ((quietNewsroom.run parkedThenOffline).moments
        (.submit (.revokeUser firstUser) :: backOnline))) ∧
      (Work.reconcile editor).Enforced newsroom (quietNewsroom.run
        (parkedThenOffline ++ .submit (.revokeUser firstUser) :: backOnline)).board.groups
          [⟨"c2"⟩] := by
  have waits : (quietNewsroom.run parkedThenOffline).board.slots.slot firstUser =
      .running (some (.reconcile editor)) := by decide +kernel
  have since : ledger firstUser ((quietNewsroom.run parkedThenOffline).moments
      (.submit (.revokeUser firstUser) :: backOnline)) =
        [.began (.reconcile editor) [⟨"c2"⟩]] := by decide +kernel
  have requested : Moment.requested?
      ⟨quietNewsroom.run parkedThenOffline, .submit (.revokeUser firstUser)⟩ =
        some (firstUser, .revoke) := rfl
  have uninterrupted : Uninterrupted firstUser (quietNewsroom.moments
      (parkedThenOffline ++ .submit (.revokeUser firstUser) :: backOnline)) :=
    uninterrupted_of_events _ _ (by simp [parkedThenOffline, backOnline])
  obtain ⟨-, overtaken, enforced⟩ :=
    overtaken_iff_offline_behind_parked (quietNewsroom_resting firstUser) requested uninterrupted
      (by decide +kernel)
  refine ⟨overtaken.2 ⟨by decide +kernel, ⟨_, waits⟩, ?_⟩,
    enforced _ _ waits since undisturbed_backOnline⟩
  rw [since]
  nofun

/-- It is not so that a request is never overtaken by work that was requested before it. -/
theorem parked_work_overtakes_offline_request :
    ¬∀ (system : System) (user : UserKey) (before after : List Event) (event : Event) (work : Work),
      system.Resting user →
      Moment.requested? ⟨system.run before, event⟩ = some (user, work) →
      Uninterrupted user (system.moments (before ++ event :: after)) →
      Undisturbed user (system.moments (before ++ event :: after)) →
      ¬Overtaken (ledger user ((system.run before).moments (event :: after))) := by
  intro claim
  have since : ledger firstUser ((quietNewsroom.run parkedThenOffline).moments
      (.submit (.revokeUser firstUser) :: backOnline)) =
        [.began (.reconcile editor) [⟨"c2"⟩]] := by decide +kernel
  exact claim quietNewsroom firstUser parkedThenOffline backOnline (.submit (.revokeUser firstUser))
    .revoke (quietNewsroom_resting firstUser) rfl
    (uninterrupted_of_events _ _ (by simp [parkedThenOffline, backOnline]))
    undisturbed_backOnline ⟨[], _, _, [], since, rfl⟩

end ChannelMembership
