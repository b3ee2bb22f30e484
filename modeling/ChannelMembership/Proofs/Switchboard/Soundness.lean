import ChannelMembership.Proofs.Switchboard.Attendance
import ChannelMembership.Proofs.Switchboard.Service

/-!
# A sound switchboard

As long as requests are made one after the other, every user is attended to by at most one strand.
The connections that no strand has in its care are in exactly the known channels that are granted to
the principal in force for them, except where the last attempt on the membership failed; and only
registered connections are in any channel.
-/

namespace ChannelMembership

/-- Whether a permission change concerns a user who is online. -/
def Audience.concerns (user : UserKey) : Audience → Bool
  | listed users => user ∈ users
  | everybody => true

/-- A permission change has a strand for every user who is online and whom it concerns. -/
theorem Audience.mem_members_iff (audience : Audience) {presence : Presence} {user : UserKey}
    {connection : Connection} (registered : presence.contains user connection = true) :
    user ∈ audience.members presence ↔ audience.concerns user = true := by
  cases audience with
  | listed users => simp [members, concerns]
  | everybody =>
      simp only [members, concerns, Presence.mem_users, Presence.isOnline_iff, iff_true]
      exact ⟨connection, registered⟩

/-- What becomes known at the moment about the principal in force for a connection of a user. -/
def Moment.presented? (user : UserKey) (connection : Connection) (moment : Moment) :
    Option Current :=
  match moment.event with
  | .submit (.connect principal other) =>
    if principal.user = some user ∧ other = connection then some (.known principal) else none
  | .submit (.change audience) => if audience.concerns user then some .awaited else none
  | .perform _ _ _ =>
    if moment.lookedUp? = some user then some ((moment.system.board.accounts user).current user)
    else none
  | .expire position =>
    if (moment.system.strands[position]?).bind Strand.settingUp? = some (user, connection) then
      some .nobody
    else none
  | _ => none

/-- The principal in force for a connection of a user, after a history: the one with which it was
connected, or the one that the account store has answered with since then, if the setup was in time. -/
def currentPrincipal (moments : List Moment) (user : UserKey) (connection : Connection) : Current :=
  (moments.filterMap (Moment.presented? user connection)).getLast?.getD .nobody

theorem currentPrincipal_concat (moments : List Moment) (moment : Moment) (user : UserKey)
    (connection : Connection) :
    currentPrincipal (moments ++ [moment]) user connection =
      (moment.presented? user connection).getD (currentPrincipal moments user connection) := by
  simp only [currentPrincipal, List.filterMap_append, List.getLast?_append]
  cases presented : moment.presented? user connection <;> simp [presented]

/-- The last attempt on a membership failed. -/
def Failed : List Moment → Connection → Channel → Prop := LastTouch Touch.fails

/-- How a user is attended to: by nobody, or by one strand. -/
inductive Attended (system : System) (moments : List Moment) (user : UserKey) : Prop
  /-- Nobody attends to the user, whose connections are as they ought to be. -/
  | free
    (nobody : ∀ (position : Nat) (strand : Strand), system.strands[position]? = some strand →
      strand.subject? ≠ some user)
    (settled : ∀ connection, system.board.presence.contains user connection = true →
      system.board.Exact (Failed moments) (currentPrincipal moments user) connection)
  /-- One strand attends to the user. -/
  | busy {position : Nat} {strand : Strand}
    (found : system.strands[position]? = some strand) (subject : strand.subject? = some user)
    (alone : ∀ (other : Nat) (strand' : Strand), system.strands[other]? = some strand' →
      strand'.subject? = some user → other = position)
    (attends : strand.Attends system.board (Failed moments) (currentPrincipal moments user) user)

/-- A sound state of the system after a history. -/
structure Sound (system : System) (moments : List Moment) : Prop where
  /-- A connection is registered under one user only. -/
  owned : ∀ {user other connection}, system.board.presence.contains user connection = true →
    system.board.presence.contains other connection = true → other = user
  /-- A connection that is not registered is in no channel. -/
  outside : ∀ connection, (∀ user, system.board.presence.contains user connection = false) →
    ∀ channel, system.board.groups.isMember channel connection = false
  /-- Every strand that may touch a membership attends to a user. -/
  known : ∀ (position : Nat) (strand : Strand), system.strands[position]? = some strand →
    strand.isAside = true ∨ ∃ user, strand.subject? = some user
  /-- Every user is attended to as ought to be. -/
  attended : ∀ user, Attended system moments user
  /-- Every user's runs follow one another. -/
  served : ∀ user, Served user system moments

/-- An event by which requests under way go on, or which does not concern memberships. -/
def Event.GoesOn : Event → Prop
  | visit _ => True
  | perform _ _ _ => True
  | expire _ => True
  | setAccount _ _ => True
  | «open» _ => True
  | take _ => True
  | dropReceiver _ => True
  | _ => False

/-- All requests are over. -/
def System.isQuiet (system : System) : Bool := system.strands.all Strand.isOver

/-- A strand that goes on makes no difference to the strands that attend to other users. -/
theorem Strand.getElem?_set_of_ne {strands : List Strand} {position other : Nat}
    {before after strand : Strand} {user subject : UserKey}
    (found : strands[position]? = some before) (mine : before.subject? = some user)
    (stays : after.subject? = some user ∨ after.isOver = true)
    (attends : strand.subject? = some subject) (apart : subject ≠ user) :
    (strands.set position after)[other]? = some strand ↔ strands[other]? = some strand := by
  by_cases same : position = other
  · subst same
    have inside := (List.getElem?_eq_some_iff.1 found).1
    rw [List.getElem?_set_self inside, found]
    constructor
    · intro after_eq
      cases after_eq
      rcases stays with same | finished
      · exact absurd (Option.some.inj (attends.symm.trans same)) apart
      · rw [subject?_of_isOver finished] at attends
        cases attends
    · intro before_eq
      cases before_eq
      exact absurd (Option.some.inj (attends.symm.trans mine)) apart
  · rw [List.getElem?_set_ne same]

section Attended

variable {system : System} {moments : List Moment} {user : UserKey}

theorem attended_of_attends {position : Nat} {strand : Strand}
    (found : system.strands[position]? = some strand)
    (alone : ∀ (other : Nat) (strand' : Strand), system.strands[other]? = some strand' →
      strand'.subject? = some user → other = position)
    (attends : strand.Attends system.board (Failed moments) (currentPrincipal moments user)
      user) : Attended system moments user := by
  rcases attends.subject? with subject | finished
  · exact .busy found subject alone attends
  · refine .free (fun other strand' found' subject => ?_) (attends.settled finished)
    have here := alone other strand' found' subject
    rw [here, found] at found'
    cases found'
    rw [Strand.subject?_of_isOver finished] at subject
    cases subject

/-- The strand that has the user as its subject attends to the user, and it does so alone. -/
theorem Attended.attends (attended : Attended system moments user) {position : Nat}
    {strand : Strand} (found : system.strands[position]? = some strand)
    (subject : strand.subject? = some user) :
    strand.Attends system.board (Failed moments) (currentPrincipal moments user) user ∧
      ∀ (other : Nat) (strand' : Strand), system.strands[other]? = some strand' →
        strand'.subject? = some user → other = position := by
  cases attended with
  | free nobody settled => exact absurd subject (nobody position strand found)
  | busy found' subject' alone attends =>
      have here := alone position strand found subject
      subst here
      rw [found] at found'
      cases found'
      exact ⟨attends, alone⟩

theorem System.isOver_of_isQuiet (quiet : system.isQuiet = true) {position : Nat}
    {strand : Strand} (found : system.strands[position]? = some strand) : strand.isOver = true :=
  List.all_eq_true.1 quiet strand (List.mem_of_getElem? found)

/-- When all requests are over, only strands that come after them attend to somebody. -/
theorem System.index_of_subject (quiet : system.isQuiet = true) {later : List Strand}
    {position : Nat} {strand : Strand}
    (found : (system.strands ++ later)[position]? = some strand)
    (subject : strand.subject? = some user) :
    ∃ index, position = system.strands.length + index ∧ later[index]? = some strand := by
  by_cases old : position < system.strands.length
  · rw [List.getElem?_append_left old] at found
    have finished := System.isOver_of_isQuiet quiet found
    rw [Strand.subject?_of_isOver finished] at subject
    cases subject
  · rw [List.getElem?_append_right (by omega)] at found
    exact ⟨position - system.strands.length, by omega, found⟩

/-- When all requests are over, all connections are as they ought to be. -/
theorem Attended.settled (attended : Attended system moments user)
    (quiet : system.isQuiet = true) (connection : Connection)
    (registered : system.board.presence.contains user connection = true) :
    system.board.Exact (Failed moments) (currentPrincipal moments user) connection := by
  cases attended with
  | free nobody settled => exact settled connection registered
  | busy found subject alone attends =>
      exact attends.settled (System.isOver_of_isQuiet quiet found) connection registered

end Attended

namespace Moment

variable {moment : Moment} {moments : List Moment} {user : UserKey} {connection : Connection}

/-- An answer that is not the account store's about the user presents nobody. -/
theorem presented?_eq_none_of_perform {position : Nat} {spot : Spot} {passage : Passage}
    (event : moment.event = .perform position spot passage)
    (silent : moment.lookedUp? ≠ some user) : moment.presented? user connection = none := by
  simp [presented?, event, silent]

theorem exact_next (moment : Moment)
    (settled : moment.system.board.Exact (Failed moments) (currentPrincipal moments user)
      connection)
    (untouched : ∀ channel, moment.touch? connection channel = none)
    (unpresented : moment.presented? user connection = none) :
    moment.next.board.Exact (Failed (moments ++ [moment]))
      (currentPrincipal (moments ++ [moment]) user) connection := by
  have same : currentPrincipal (moments ++ [moment]) user connection =
      currentPrincipal moments user connection := by
    rw [currentPrincipal_concat, unpresented]
    rfl
  exact settled.mono moment.directory_next same
    (fun channel => (lastTouch_concat_of_none (untouched channel)).2)
    (fun channel => .inr (isMember_next_of_touch?_eq_none (untouched channel)))

/-- A moment at which nothing happens to a user. -/
structure Ignores (user : UserKey) (moment : Moment) : Prop where
  /-- No connection comes or goes. -/
  presence : moment.next.board.presence = moment.system.board.presence
  /-- The slot stays as it is. -/
  slot : moment.next.board.slots.slot user = moment.system.board.slots.slot user
  /-- The strand that attends to the user stays as it is, and there is no other one. -/
  strands : ∀ (position : Nat) (strand : Strand), strand.subject? = some user →
    (moment.next.strands[position]? = some strand ↔
      moment.system.strands[position]? = some strand)
  /-- No membership of the user's connections is touched. -/
  untouched : ∀ connection, moment.system.board.presence.contains user connection = true →
    ∀ channel, moment.touch? connection channel = none
  /-- No principal is presented for them. -/
  unpresented : ∀ connection, moment.presented? user connection = none

theorem Ignores.attended (ignores : moment.Ignores user)
    (attended : Attended moment.system moments user) :
    Attended moment.next (moments ++ [moment]) user := by
  cases attended with
  | free nobody settled =>
      refine .free (fun position strand found subject => ?_) fun connection registered => ?_
      · exact nobody position strand ((ignores.strands position strand subject).1 found) subject
      · rw [ignores.presence] at registered
        exact exact_next moment (settled connection registered)
          (ignores.untouched connection registered) (ignores.unpresented connection)
  | @busy position strand found subject alone attends =>
      refine .busy ((ignores.strands position strand subject).2 found) subject ?_ ?_
      · intro other strand' found' subject'
        exact alone other strand' ((ignores.strands other strand' subject').1 found') subject'
      · refine attends.mono moment.directory_next ignores.presence ignores.slot ?_ ?_ ?_
        · intro connection registered
          rw [currentPrincipal_concat, ignores.unpresented connection]
          rfl
        · intro connection registered channel
          exact (lastTouch_concat_of_none (ignores.untouched connection registered channel)).2
        · intro connection registered channel
          exact .inr (isMember_next_of_touch?_eq_none
            (ignores.untouched connection registered channel))

theorem presence_next_of_goesOn (goesOn : moment.event.GoesOn) :
    moment.next.board.presence = moment.system.board.presence := by
  have presence := moment.system.step_presence moment.event
  unfold next
  cases event : moment.event <;> rw [event] at goesOn presence <;>
    first
    | exact presence
    | cases goesOn

end Moment

namespace Sound

variable {moment : Moment} {moments : List Moment}

/-- Nothing is lost when no strand that attends to a user goes on. -/
theorem bypass (sound : Sound moment.system moments) (goesOn : moment.event.GoesOn)
    (strands : ∀ (position : Nat) (strand : Strand), strand.isAside = false →
      (moment.next.strands[position]? = some strand ↔
        moment.system.strands[position]? = some strand))
    (slots : moment.next.board.slots = moment.system.board.slots)
    (untouched : ∀ connection channel, moment.touch? connection channel = none)
    (unpresented : ∀ user connection, moment.presented? user connection = none) :
    Sound moment.next (moments ++ [moment]) where
  owned := by
    rw [Moment.presence_next_of_goesOn goesOn]
    exact sound.owned
  outside := by
    rw [Moment.presence_next_of_goesOn goesOn]
    intro connection absent channel
    rw [Moment.isMember_next_of_touch?_eq_none (untouched connection channel)]
    exact sound.outside connection absent channel
  known := by
    intro position strand found
    cases aside : strand.isAside with
    | true => exact .inl rfl
    | false =>
        have before := (strands position strand aside).1 found
        exact .inr ((sound.known position strand before).resolve_left (by simp [aside]))
  attended := by
    intro user
    refine Moment.Ignores.attended ?_ (sound.attended user)
    refine ⟨Moment.presence_next_of_goesOn goesOn, by rw [slots], ?_, ?_, unpresented user⟩
    · intro position strand subject
      refine strands position strand (Bool.eq_false_iff.2 fun aside => ?_)
      rw [Strand.subject?_of_isAside aside] at subject
      cases subject
    · exact fun connection _ => untouched connection
  served := fun user => (sound.served user).next moment

/-- One strand goes on, and it still attends to its user. -/
theorem advance (sound : Sound moment.system moments) (goesOn : moment.event.GoesOn)
    {position : Nat} {strand after : Strand} {user : UserKey}
    (found : moment.system.strands[position]? = some strand)
    (subject : strand.subject? = some user)
    (strands : moment.next.strands = moment.system.strands.set position after)
    (slots : ∀ other, other ≠ user →
      moment.next.board.slots.slot other = moment.system.board.slots.slot other)
    (touched : ∀ connection channel touch, moment.touch? connection channel = some touch →
      moment.system.board.presence.contains user connection = true)
    (presented : ∀ other connection, other ≠ user → moment.presented? other connection = none)
    (attends : after.Attends moment.next.board (Failed (moments ++ [moment]))
      (currentPrincipal (moments ++ [moment]) user) user) :
    Sound moment.next (moments ++ [moment]) := by
  have inside := (List.getElem?_eq_some_iff.1 found).1
  have presence := Moment.presence_next_of_goesOn goesOn
  have here : moment.next.strands[position]? = some after := by
    rw [strands]
    exact List.getElem?_set_self inside
  have elsewhere {other : Nat} (apart : other ≠ position) :
      moment.next.strands[other]? = moment.system.strands[other]? := by
    rw [strands]
    exact List.getElem?_set_ne apart.symm
  have untouched {connection : Connection}
      (foreign : moment.system.board.presence.contains user connection = false)
      (channel : Channel) : moment.touch? connection channel = none := by
    cases touch : moment.touch? connection channel with
    | none => rfl
    | some touch' =>
        rw [touched connection channel touch' touch] at foreign
        cases foreign
  obtain ⟨-, alone⟩ := (sound.attended user).attends found subject
  refine ⟨?_, ?_, ?_, ?_, fun other => (sound.served other).next moment⟩
  · rw [presence]
    exact sound.owned
  · rw [presence]
    intro connection absent channel
    rw [Moment.isMember_next_of_touch?_eq_none (untouched (absent user) channel)]
    exact sound.outside connection absent channel
  · intro other strand' found'
    by_cases same : other = position
    · subst same
      rw [here] at found'
      cases found'
      rcases attends.subject? with subject' | finished
      · exact .inr ⟨user, subject'⟩
      · exact .inl (Strand.isAside_of_isOver finished)
    · rw [elsewhere same] at found'
      exact sound.known other strand' found'
  · intro other
    by_cases mine : other = user
    · subst mine
      refine attended_of_attends here (fun another strand' found' subject' => ?_) attends
      by_cases same : another = position
      · exact same
      · rw [elsewhere same] at found'
        exact alone another strand' found' subject'
    · refine Moment.Ignores.attended ?_ (sound.attended other)
      refine ⟨presence, slots other mine, ?_, ?_, fun connection => presented other connection mine⟩
      · intro another strand' subject'
        rw [strands]
        exact Strand.getElem?_set_of_ne found subject attends.subject? subject' mine
      · intro connection registered
        refine untouched (Bool.eq_false_iff.2 fun also => mine ?_)
        exact sound.owned also registered

private theorem getElem?_set_iff {strands : List Strand} {position : Nat} {before after : Strand}
    (found : strands[position]? = some before) (aside : before.isAside = true)
    (aside' : after.isAside = true) (other : Nat) (strand : Strand)
    (attending : strand.isAside = false) :
    (strands.set position after)[other]? = some strand ↔ strands[other]? = some strand := by
  by_cases here : position = other
  · subst here
    have inside := (List.getElem?_eq_some_iff.1 found).1
    rw [List.getElem?_set_self inside, found]
    constructor
    · intro same
      cases same
      rw [aside'] at attending
      cases attending
    · intro same
      cases same
      rw [aside] at attending
      cases attending
  · rw [List.getElem?_set_ne here]

private theorem goesOn_of_eq {event : Event} (same : moment.event = event)
    (goesOn : event.GoesOn) : moment.event.GoesOn := by
  rwa [same]

theorem perform (sound : Sound moment.system moments) {position : Nat} {spot : Spot}
    {passage : Passage} (event : moment.event = .perform position spot passage) :
    Sound moment.next (moments ++ [moment]) := by
  have goesOn := goesOn_of_eq event trivial
  cases found : moment.system.strands[position]? with
  | none =>
      have next : moment.next = moment.system := by
        simp [Moment.next, event, System.step, found]
      refine sound.bypass goesOn (fun _ _ _ => by rw [next]) (by rw [next]) ?_ ?_
      · simp [Moment.touch?, Moment.attempt?, event, found]
      · intro user connection
        apply Moment.presented?_eq_none_of_perform event
        simp [Moment.lookedUp?_of_perform event, found]
  | some strand =>
      have next := Moment.next_of_perform event found
      have strands : moment.next.strands = moment.system.strands.set position
          (strand.perform moment.system.board passage spot).2 := by
        rw [next]
        rfl
      have board : moment.next.board = (strand.perform moment.system.board passage spot).1 := by
        rw [next]
        rfl
      rcases sound.known position strand found with aside | ⟨user, subject⟩
      · obtain ⟨aside', slots, nothing⟩ :=
          Strand.perform_of_isAside aside moment.system.board passage spot
        refine sound.bypass goesOn ?_ ?_ ?_ ?_
        · rw [strands]
          exact getElem?_set_iff found aside aside'
        · rw [board, slots]
        · simp [Moment.touch?, Moment.attempt?, event, found, nothing]
        · intro user connection
          apply Moment.presented?_eq_none_of_perform event
          rw [ne_eq, Moment.lookedUp?_of_perform event, found]
          rintro ⟨-, looking⟩
          cases looking
          cases aside
      · obtain ⟨attends, alone⟩ := (sound.attended user).attends found subject
        refine sound.advance goesOn found subject strands (fun other apart => ?_) ?_ ?_ ?_
        · rw [board]
          exact Strand.slot_perform_of_ne _ passage spot subject apart
        · intro connection channel touch touched
          obtain ⟨attempt, attempted, same, -⟩ :=
            Moment.touch?_eq_some_of_perform event found touched
          have here : attempt.operation.connection = connection := congrArg Prod.fst same
          rw [← here]
          exact attends.attempts attempted
        · intro other connection apart
          apply Moment.presented?_eq_none_of_perform event
          rw [ne_eq, Moment.lookedUp?_of_perform event, found]
          rintro ⟨-, looking⟩
          cases looking
          exact apart (Option.some.inj subject)
        · rw [board]
          by_cases answered : moment.lookedUp? = some user
          · obtain ⟨rfl, looking⟩ := (Moment.lookedUp?_of_perform event).1 answered
            cases found.symm.trans looking
            refine Strand.attends_resolve _ ?_ fun connection registered => ?_
            · apply (sound.served user).idle_of_unserved
              intro other strand' found' serves
              have here := alone other strand' found' (Strand.subject?_of_runner? serves)
              rw [here, found] at found'
              cases found'
              cases serves
            · rw [currentPrincipal_concat]
              simp [Moment.presented?, event, answered]
          · have same : currentPrincipal (moments ++ [moment]) user =
                currentPrincipal moments user := by
              funext connection
              rw [currentPrincipal_concat, Moment.presented?_eq_none_of_perform event answered]
              rfl
            rw [same]
            refine attends.perform ?_ ?_
            · rintro rfl rfl
              exact answered ((Moment.lookedUp?_of_perform event).2 ⟨rfl, found⟩)
            · exact excuses_concat event found fun attempt failed => by simp [Touch.fails, failed]

theorem visit (sound : Sound moment.system moments) {position : Nat}
    (event : moment.event = .visit position) : Sound moment.next (moments ++ [moment]) := by
  have goesOn := goesOn_of_eq event trivial
  have untouched (connection : Connection) (channel : Channel) :
      moment.touch? connection channel = none := by
    simp [Moment.touch?, Moment.attempt?, event]
  have unpresented (user : UserKey) (connection : Connection) :
      moment.presented? user connection = none := by
    simp [Moment.presented?, event]
  have nowhere (next : moment.next = moment.system) : Sound moment.next (moments ++ [moment]) :=
    sound.bypass goesOn (fun _ _ _ => by rw [next]) (by rw [next]) untouched unpresented
  cases found : moment.system.strands[position]? with
  | none => exact nowhere (by simp [Moment.next, event, System.step, found])
  | some strand =>
      cases strand with
      | queued user =>
          have next := Moment.next_of_visit event found
          have strands : moment.next.strands = moment.system.strands.set position
              (Strand.visit moment.system.board user) := by
            rw [next]
            rfl
          have board : moment.next.board = moment.system.board := by
            rw [next]
            rfl
          obtain ⟨attends, -⟩ := (sound.attended user).attends found rfl
          refine sound.advance goesOn found rfl strands (fun _ _ => by rw [board]) ?_
            (fun other connection _ => unpresented other connection) ?_
          · intro connection channel touch touched
            rw [untouched] at touched
            cases touched
          · rw [board]
            apply Strand.attends_visit
            intro connection registered
            rw [currentPrincipal_concat, unpresented]
            cases attends with
            | queued awaited => exact awaited connection registered
            | done finished settled => cases finished
      | _ => exact nowhere (by simp [Moment.next, event, System.step, found])

theorem expire (sound : Sound moment.system moments) {position : Nat}
    (event : moment.event = .expire position) : Sound moment.next (moments ++ [moment]) := by
  have goesOn := goesOn_of_eq event trivial
  have untouched (connection : Connection) (channel : Channel) :
      moment.touch? connection channel = none := by
    simp [Moment.touch?, Moment.attempt?, event]
  cases found : moment.system.strands[position]? with
  | none =>
      have next : moment.next = moment.system := by
        simp [Moment.next, event, System.step, found]
      refine sound.bypass goesOn (fun _ _ _ => by rw [next]) (by rw [next]) untouched ?_
      simp [Moment.presented?, event, found]
  | some strand =>
      have next := Moment.next_of_expire event found
      have strands : moment.next.strands =
          moment.system.strands.set position (strand.expire moment.system.board).2 := by
        rw [next]
        rfl
      have board : moment.next.board = (strand.expire moment.system.board).1 := by
        rw [next]
        rfl
      have presented (user : UserKey) (connection : Connection) :
          moment.presented? user connection =
            if strand.settingUp? = some (user, connection) then some .nobody else none := by
        simp [Moment.presented?, event, found]
      rcases sound.known position strand found with aside | ⟨user, subject⟩
      · have expired := Strand.expire_of_isAside aside moment.system.board
        rw [expired] at strands board
        refine sound.bypass goesOn ?_ (by rw [board]) untouched fun user connection => ?_
        · rw [strands]
          exact getElem?_set_iff found aside aside
        · rw [presented, if_neg]
          intro setup
          have subject := Strand.subject?_of_settingUp? setup
          rw [Strand.subject?_of_isAside aside] at subject
          cases subject
      · obtain ⟨attends, -⟩ := (sound.attended user).attends found subject
        refine sound.advance goesOn found subject strands (fun other _ => ?_) ?_ ?_ ?_
        · rw [board, Strand.expire_board]
        · intro connection channel touch touched
          rw [untouched] at touched
          cases touched
        · intro other connection apart
          rw [presented, if_neg]
          intro setup
          rw [Strand.subject?_of_settingUp? setup] at subject
          exact apart (Option.some.inj subject)
        · have attends' : strand.Attends moment.system.board (Failed (moments ++ [moment]))
              (currentPrincipal moments user) user := by
            refine attends.mono rfl rfl rfl (fun _ _ => rfl) (fun connection _ channel => ?_)
              fun _ _ _ => .inr rfl
            exact (lastTouch_concat_of_none (untouched connection channel)).2
          rw [board]
          refine attends'.expire (fun connection setup => ?_) fun connection _ other => ?_
          · rw [currentPrincipal_concat, presented, if_pos setup]
            rfl
          · rw [currentPrincipal_concat, presented, if_neg other]
            rfl

/-- Whatever goes on keeps the state sound. -/
theorem goOn (moment : Moment) (sound : Sound moment.system moments)
    (goesOn : moment.event.GoesOn) : Sound moment.next (moments ++ [moment]) := by
  have elsewhere (strands : moment.next.strands = moment.system.strands)
      (slots : moment.next.board.slots = moment.system.board.slots)
      (untouched : ∀ connection channel, moment.touch? connection channel = none)
      (unpresented : ∀ user connection, moment.presented? user connection = none) :
      Sound moment.next (moments ++ [moment]) :=
    sound.bypass goesOn (fun _ _ _ => by rw [strands]) slots untouched unpresented
  obtain ⟨system, event⟩ := moment
  cases event with
  | perform position spot passage => exact sound.perform rfl
  | visit position => exact sound.visit rfl
  | expire position => exact sound.expire rfl
  | setAccount user account => exact elsewhere rfl rfl (fun _ _ => rfl) (fun _ _ => rfl)
  | «open» connection => exact elsewhere rfl rfl (fun _ _ => rfl) (fun _ _ => rfl)
  | take position => exact elsewhere rfl rfl (fun _ _ => rfl) (fun _ _ => rfl)
  | dropReceiver position => exact elsewhere rfl rfl (fun _ _ => rfl) (fun _ _ => rfl)
  | _ => cases goesOn

end Sound
end ChannelMembership
