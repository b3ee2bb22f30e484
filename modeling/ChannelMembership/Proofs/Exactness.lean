import ChannelMembership.Proofs.NewestWork
import ChannelMembership.Proofs.Switchboard.Completion
import ChannelMembership.Proofs.Switchboard.Soundness

/-!
# Exactness of memberships

Requests are made to the hub one after the other: connections are set up, permissions change, notices
are sent around, connections hang up.  Between any two of them every permission change has been answered
for every connection that it concerns, and every registered connection is in exactly the known channels
that all guards grant to its current principal, except where the last attempt on the membership failed.
-/

namespace ChannelMembership

/-- Whether the hub takes the request.  The name of a registered connection is not given to another
one. -/
def Request.AtHub (presence : Presence) : Request → Prop
  | connect _ connection => ∀ user, presence.contains user connection = false
  | change _ => True
  | route _ => True
  | circulate _ _ => True
  | _ => False

/-- Events among which every request is over before the next one is made. -/
inductive Orderly : System → List Event → Prop
  /-- Nothing more happens. -/
  | done (system : System) : Orderly system []
  /-- A request is made when all others are over. -/
  | request {system : System} {request : Request} {rest : List Event}
    (quiet : system.isQuiet = true) (atHub : request.AtHub system.board.presence)
    (after : Orderly (system.step (.submit request)) rest) :
    Orderly system (.submit request :: rest)
  /-- The requests under way go on. -/
  | goOn {system : System} {event : Event} {rest : List Event} (goesOn : event.GoesOn)
    (after : Orderly (system.step event) rest) : Orderly system (event :: rest)
  /-- A connection is removed from its user, and the transport closes it. -/
  | hangUp {system : System} {user : UserKey} {connection : Connection} {rest : List Event}
    (quiet : system.isQuiet = true)
    (mine : ∀ other, system.board.presence.contains other connection = true → other = user)
    (after : Orderly ((system.step (.disconnect user connection)).step (.close connection)) rest) :
    Orderly system (.disconnect user connection :: .close connection :: rest)
  /-- The transport closes a connection, and it is removed from its user. -/
  | cutOff {system : System} {user : UserKey} {connection : Connection} {rest : List Event}
    (quiet : system.isQuiet = true)
    (mine : ∀ other, system.board.presence.contains other connection = true → other = user)
    (after : Orderly ((system.step (.close connection)).step (.disconnect user connection)) rest) :
    Orderly system (.close connection :: .disconnect user connection :: rest)

theorem Audience.nodup_members (audience : Audience) (presence : Presence) :
    (audience.members presence).Nodup := by
  cases audience with
  | listed users => exact nodup_sortedSet users
  | everybody => exact nodup_sortedSet _

/-- Among the strands of a permission change every user has one. -/
theorem Audience.index_unique (audience : Audience) (presence : Presence) {index other : Nat}
    {strand strand' : Strand} {user : UserKey}
    (found : ((audience.members presence).map Strand.queued)[index]? = some strand)
    (subject : strand.subject? = some user)
    (found' : ((audience.members presence).map Strand.queued)[other]? = some strand')
    (subject' : strand'.subject? = some user) : other = index := by
  simp only [List.getElem?_map, Option.map_eq_some_iff] at found found'
  obtain ⟨user, found, rfl⟩ := found
  obtain ⟨user', found', rfl⟩ := found'
  cases subject
  cases subject'
  have inside := (List.getElem?_eq_some_iff.1 found').1
  exact (List.getElem?_inj inside (audience.nodup_members presence)).1 (found'.trans found.symm)

namespace Sound

variable {system : System} {moments : List Moment} {request : Request} {user : UserKey}
  {connection : Connection} {events : List Event}

theorem settled (sound : Sound system moments) (quiet : system.isQuiet = true)
    (registered : system.board.presence.contains user connection = true) :
    system.board.Exact (Failed moments) (currentPrincipal moments user) connection :=
  (sound.attended user).settled quiet connection registered

theorem exact_request (sound : Sound system moments) (quiet : system.isQuiet = true)
    (registered : system.board.presence.contains user connection = true)
    (unpresented : Moment.presented? user connection ⟨system, .submit request⟩ = none) :
    (system.step (.submit request)).board.Exact
      (Failed (moments ++ [⟨system, .submit request⟩]))
      (currentPrincipal (moments ++ [⟨system, .submit request⟩]) user) connection :=
  Moment.exact_next ⟨system, .submit request⟩ (sound.settled quiet registered) (fun _ => rfl)
    unpresented

/-- A user whom no strand of a request concerns is attended to by nobody. -/
private theorem free_of_request (quiet : system.isQuiet = true)
    (foreign : ∀ strand ∈ (request.begin system.board).2, strand.subject? ≠ some user)
    (settled : ∀ connection,
      (system.step (.submit request)).board.presence.contains user connection = true →
        (system.step (.submit request)).board.Exact
          (Failed (moments ++ [⟨system, .submit request⟩]))
          (currentPrincipal (moments ++ [⟨system, .submit request⟩]) user) connection) :
    Attended (system.step (.submit request)) (moments ++ [⟨system, .submit request⟩]) user := by
  refine .free (fun position strand found subject => ?_) settled
  obtain ⟨index, -, later⟩ := System.index_of_subject quiet found subject
  exact foreign strand (List.mem_of_getElem? later) subject

/-- A user whom one strand of a request concerns is attended to by that strand. -/
private theorem attended_of_request (quiet : system.isQuiet = true) {index : Nat} {strand : Strand}
    (found : (request.begin system.board).2[index]? = some strand)
    (alone : ∀ (other : Nat) (strand' : Strand),
      (request.begin system.board).2[other]? = some strand' →
        strand'.subject? = some user → other = index)
    (attends : strand.Attends (system.step (.submit request)).board
      (Failed (moments ++ [⟨system, .submit request⟩]))
      (currentPrincipal (moments ++ [⟨system, .submit request⟩]) user) user) :
    Attended (system.step (.submit request)) (moments ++ [⟨system, .submit request⟩]) user := by
  have here : (system.step (.submit request)).strands[system.strands.length + index]? =
      some strand := by
    have appended : (system.strands ++ (request.begin system.board).2)[
        system.strands.length + index]? = (request.begin system.board).2[index]? := by
      rw [List.getElem?_append_right (by omega), Nat.add_sub_cancel_left]
    exact appended.trans found
  refine attended_of_attends here (fun position strand' found' subject => ?_) attends
  obtain ⟨other, rfl, later⟩ := System.index_of_subject quiet found' subject
  rw [alone other strand' later subject]

/-- A request is begun in a sound state if its own strands and connection are in order. -/
private theorem begin_sound (sound : Sound system moments)
    (owned : ∀ {user other connection},
      (system.step (.submit request)).board.presence.contains user connection = true →
        (system.step (.submit request)).board.presence.contains other connection = true →
          other = user)
    (grows : ∀ user connection, system.board.presence.contains user connection = true →
      (system.step (.submit request)).board.presence.contains user connection = true)
    (known : ∀ strand ∈ (request.begin system.board).2,
      strand.isAside = true ∨ ∃ user, strand.subject? = some user)
    (attended : ∀ user,
      Attended (system.step (.submit request)) (moments ++ [⟨system, .submit request⟩]) user) :
    Sound (system.step (.submit request)) (moments ++ [⟨system, .submit request⟩]) where
  owned := owned
  outside := by
    intro connection absent channel
    have untouched : Moment.touch? connection channel ⟨system, .submit request⟩ = none := rfl
    have same : (system.step (.submit request)).board.groups.isMember channel connection =
        system.board.groups.isMember channel connection :=
      Moment.isMember_next_of_touch?_eq_none untouched
    rw [same]
    refine sound.outside connection (fun user => Bool.eq_false_iff.2 fun present => ?_) channel
    have still := grows user connection present
    rw [absent user] at still
    cases still
  known := by
    intro position strand found
    by_cases old : position < system.strands.length
    · have before : system.strands[position]? = some strand :=
        (List.getElem?_append_left old).symm.trans found
      exact sound.known position strand before
    · exact known strand (List.mem_of_getElem?
        ((List.getElem?_append_right (by omega)).symm.trans found))
  attended := attended
  served := fun user => (sound.served user).next ⟨system, .submit request⟩

/-- A request whose strands attend to nobody, and that registers nothing, changes nothing. -/
private theorem begin_aside (sound : Sound system moments) (quiet : system.isQuiet = true)
    (presence : (system.step (.submit request)).board.presence = system.board.presence)
    (aside : ∀ strand ∈ (request.begin system.board).2, strand.isAside = true)
    (unpresented : ∀ user connection,
      Moment.presented? user connection ⟨system, .submit request⟩ = none) :
    Sound (system.step (.submit request)) (moments ++ [⟨system, .submit request⟩]) := by
  refine sound.begin_sound ?_ ?_ (fun strand member => .inl (aside strand member)) fun user => ?_
  · rw [presence]
    exact sound.owned
  · rw [presence]
    exact fun user connection registered => registered
  · refine free_of_request quiet (fun strand member => ?_) fun connection registered => ?_
    · rw [Strand.subject?_of_isAside (aside strand member)]
      nofun
    · rw [presence] at registered
      exact sound.exact_request quiet registered (unpresented user connection)

/-- Every user whom a permission change concerns has one strand, and waits for the account store's
answer. -/
theorem change (sound : Sound system moments) (quiet : system.isQuiet = true)
    (audience : Audience) :
    Sound (system.step (.submit (.change audience)))
      (moments ++ [⟨system, .submit (.change audience)⟩]) := by
  refine sound.begin_sound sound.owned (fun _ _ registered => registered) ?_ fun user => ?_
  · intro strand member
    obtain ⟨user, -, rfl⟩ := List.mem_map.1 member
    exact .inr ⟨user, rfl⟩
  · by_cases concerned : user ∈ audience.members system.board.presence
    · obtain ⟨index, found⟩ := List.mem_iff_getElem?.1 concerned
      have queued : (Request.begin (.change audience) system.board).2[index]? =
          some (.queued user) := by
        simp [Request.begin, found]
      refine attended_of_request quiet queued ?_ (.queued fun connection registered => ?_)
      · exact fun other strand found' subject => audience.index_unique _ queued rfl found' subject
      · rw [currentPrincipal_concat]
        simp [Moment.presented?, (audience.mem_members_iff registered).1 concerned]
    · refine free_of_request quiet (fun strand member subject => ?_) fun connection registered => ?_
      · obtain ⟨other, among, rfl⟩ := List.mem_map.1 member
        cases subject
        exact concerned among
      · refine sound.exact_request quiet registered ?_
        have unconcerned : ¬audience.concerns user = true :=
          mt (audience.mem_members_iff registered).2 concerned
        simp [Moment.presented?, unconcerned]

/-- A connection that is set up is assigned its channels by one strand. -/
theorem connect (sound : Sound system moments) (quiet : system.isQuiet = true)
    (principal : Principal) (fresh : ∀ user,
      system.board.presence.contains user connection = false) :
    Sound (system.step (.submit (.connect principal connection)))
      (moments ++ [⟨system, .submit (.connect principal connection)⟩]) := by
  have presence := system.step_presence (.submit (.connect principal connection))
  obtain ⟨known, claims⟩ := principal
  cases known with
  | none =>
      refine sound.begin_aside quiet presence (fun strand member => ?_) fun user other => ?_
      · cases List.mem_singleton.1 member
        rfl
      · simp [Moment.presented?]
  | some mine =>
      simp only at presence
      have registered (user : UserKey) (other : Connection) :
          (system.step (.submit (.connect ⟨some mine, claims⟩ connection))).board.presence.contains
              user other = true ↔
            (user = mine ∧ other = connection) ∨
              system.board.presence.contains user other = true := by
        rw [presence]
        exact Presence.contains_add _ _ _ _ _
      have apart {user : UserKey} {other : Connection}
          (before : system.board.presence.contains user other = true) : other ≠ connection := by
        rintro rfl
        rw [fresh user] at before
        cases before
      have others {user : UserKey} {other : Connection}
          (before : system.board.presence.contains user other = true) :
          (system.step (.submit (.connect ⟨some mine, claims⟩ connection))).board.Exact
            (Failed (moments ++ [⟨system, .submit (.connect ⟨some mine, claims⟩ connection)⟩]))
            (currentPrincipal (moments ++
              [⟨system, .submit (.connect ⟨some mine, claims⟩ connection)⟩]) user) other := by
        apply sound.exact_request quiet before
        simp [Moment.presented?, (apart before).symm]
      refine sound.begin_sound ?_ ?_ ?_ fun user => ?_
      · intro user another other first second
        rcases (registered user other).1 first with ⟨rfl, rfl⟩ | before
        · rcases (registered another other).1 second with ⟨rfl, -⟩ | before
          · rfl
          · exact absurd rfl (apart before)
        · rcases (registered another other).1 second with ⟨-, rfl⟩ | before'
          · exact absurd rfl (apart before)
          · exact sound.owned before before'
      · exact fun user other before => (registered user other).2 (.inr before)
      · intro strand member
        cases List.mem_singleton.1 member
        unfold Strand.ofAssignment
        split
        · exact .inr ⟨mine, rfl⟩
        · exact .inl rfl
      · by_cases same : user = mine
        · subst same
          have absent (channel : Channel) :
              Failed (moments ++ [⟨system, .submit (.connect ⟨some user, claims⟩ connection)⟩])
                connection channel ∨
              system.board.groups.isMember channel connection = false :=
            .inr (sound.outside connection fresh channel)
          have serves := Assignment.serves_start
            { system.board with presence := system.board.presence.add user connection } user
            ⟨some user, claims⟩ absent
          have assigned : (Request.begin (.connect ⟨some user, claims⟩ connection)
              system.board).2[0]? = some _ := rfl
          refine attended_of_request quiet assigned ?_ ?_
          · intro other strand found subject
            cases other with
            | zero => rfl
            | succ other => cases found
          · refine Strand.attends_ofAssignment ((registered user connection).2 (.inl ⟨rfl, rfl⟩))
              ?_ serves ?_
            · rw [currentPrincipal_concat]
              simp [Moment.presented?]
            · intro other different present
              rcases (registered user other).1 present with ⟨-, rfl⟩ | before
              · exact absurd rfl different
              · exact others before
        · refine free_of_request quiet (fun strand member => ?_) fun other present => ?_
          · cases List.mem_singleton.1 member
            unfold Strand.ofAssignment
            split
            · intro subject
              exact same (Option.some.inj subject).symm
            · simp [Strand.subject?]
          · rcases (registered user other).1 present with ⟨rfl, -⟩ | before
            · exact absurd rfl same
            · exact others before

/-- A request at the hub begins in a sound state if all others are over. -/
theorem submit (sound : Sound system moments) (quiet : system.isQuiet = true)
    (atHub : request.AtHub system.board.presence) :
    Sound (system.step (.submit request)) (moments ++ [⟨system, .submit request⟩]) := by
  cases request with
  | connect principal connection => exact sound.connect quiet principal atHub
  | change audience => exact sound.change quiet audience
  | route notice =>
      refine sound.begin_aside quiet (system.step_presence _) ?_ fun _ _ => rfl
      intro strand member
      simp only [Request.begin] at member
      split at member <;>
        · cases List.mem_singleton.1 member
          rfl
  | circulate notice user =>
      refine sound.begin_aside quiet (system.step_presence _) ?_ fun _ _ => rfl
      intro strand member
      cases List.mem_singleton.1 member
      unfold Strand.ofCircular
      split <;> rfl
  | _ => cases atHub

/-- A connection that hangs up is registered no more and in no channel. -/
theorem hangUp (sound : Sound system moments) (quiet : system.isQuiet = true)
    (mine : ∀ other, system.board.presence.contains other connection = true → other = user)
    {first second : Event}
    (either : (first = .disconnect user connection ∧ second = .close connection) ∨
      (first = .close connection ∧ second = .disconnect user connection)) :
    Sound ((system.step first).step second)
      (moments ++ [⟨system, first⟩] ++ [⟨system.step first, second⟩]) := by
  have strands : ((system.step first).step second).strands = system.strands := by
    rcases either with ⟨rfl, rfl⟩ | ⟨rfl, rfl⟩ <;> rfl
  have presence : ((system.step first).step second).board.presence =
      system.board.presence.remove user connection := by
    rcases either with ⟨rfl, rfl⟩ | ⟨rfl, rfl⟩ <;> rfl
  have groups : ((system.step first).step second).board.groups =
      system.board.groups.expel connection := by
    rcases either with ⟨rfl, rfl⟩ | ⟨rfl, rfl⟩ <;> rfl
  have registered (other : UserKey) (another : Connection) :
      ((system.step first).step second).board.presence.contains other another = true ↔
        ¬(other = user ∧ another = connection) ∧
          system.board.presence.contains other another = true := by
    rw [presence]
    exact Presence.contains_remove _ _ _ _ _
  refine ⟨?_, ?_, ?_, fun other => ?_, fun other => ?_⟩
  · intro other another third one two
    exact sound.owned ((registered _ _).1 one).2 ((registered _ _).1 two).2
  · intro another absent channel
    rw [groups]
    refine Bool.eq_false_iff.2 fun member => ?_
    obtain ⟨apart, before⟩ := (Groups.isMember_expel _ _ _ _).1 member
    have outside := sound.outside another (fun other => Bool.eq_false_iff.2 fun present => ?_) channel
    · rw [outside] at before
      cases before
    · have still := (registered other another).2 ⟨fun same => apart same.2, present⟩
      rw [absent other] at still
      cases still
  · rw [strands]
    exact sound.known
  · refine .free (fun position strand found subject => ?_) fun another present => ?_
    · rw [strands] at found
      have finished := System.isOver_of_isQuiet quiet found
      rw [Strand.subject?_of_isOver finished] at subject
      cases subject
    · obtain ⟨apart, before⟩ := (registered other another).1 present
      have different : connection ≠ another := by
        rintro rfl
        exact apart ⟨mine other before, rfl⟩
      have untouched (event : Event)
          (ends : event = .disconnect user connection ∨ event = .close connection)
          (system : System) :
          (∀ channel, Moment.touch? another channel ⟨system, event⟩ = none) ∧
            Moment.presented? other another ⟨system, event⟩ = none := by
        rcases ends with rfl | rfl
        · exact ⟨fun _ => rfl, rfl⟩
        · exact ⟨fun _ => if_neg different, rfl⟩
      have ends : (first = .disconnect user connection ∨ first = .close connection) ∧
          (second = .disconnect user connection ∨ second = .close connection) := by
        rcases either with ⟨one, two⟩ | ⟨one, two⟩
        · exact ⟨.inl one, .inr two⟩
        · exact ⟨.inr one, .inl two⟩
      obtain ⟨untouched₁, unpresented₁⟩ := untouched first ends.1 system
      obtain ⟨untouched₂, unpresented₂⟩ := untouched second ends.2 (system.step first)
      exact Moment.exact_next ⟨system.step first, second⟩
        (Moment.exact_next ⟨system, first⟩ (sound.settled quiet before) untouched₁ unpresented₁)
        untouched₂ unpresented₂
  · exact ((sound.served other).next ⟨system, first⟩).next ⟨system.step first, second⟩

/-- An orderly run keeps the system sound. -/
theorem run (orderly : Orderly system events) (sound : Sound system moments) :
    Sound (system.run events) (moments ++ system.moments events) := by
  induction orderly generalizing moments with
  | done system => simpa [System.moments] using sound
  | @request system request rest quiet atHub after induction =>
      have later := induction (sound.submit quiet atHub)
      rwa [List.append_assoc] at later
  | @goOn system event rest goesOn after induction =>
      have later := induction (Sound.goOn ⟨system, event⟩ sound goesOn)
      rwa [List.append_assoc] at later
  | hangUp quiet mine after induction =>
      have later := induction (sound.hangUp quiet mine (.inl ⟨rfl, rfl⟩))
      rwa [List.append_assoc, List.append_assoc] at later
  | cutOff quiet mine after induction =>
      have later := induction (sound.hangUp quiet mine (.inr ⟨rfl, rfl⟩))
      rwa [List.append_assoc, List.append_assoc] at later

end Sound

/-- A system in which nothing was requested and nobody is registered. -/
structure System.Fresh (system : System) : Prop where
  /-- Nothing was requested. -/
  strands : system.strands = []
  /-- No run has a slot. -/
  slots : ∀ user, system.board.slots.slot user = .idle
  /-- Nobody is registered. -/
  presence : ∀ user connection, system.board.presence.contains user connection = false
  /-- No channel has a member. -/
  groups : ∀ channel connection, system.board.groups.isMember channel connection = false

/-- Whatever the link does to calls later on. -/
theorem System.fresh_initial (directory : Directory) (limits : Limits)
    (interference : Option Interference) :
    (System.initial (Switchboard.initial directory limits
      ⟨interference, Exchange.empty⟩)).Fresh where
  strands := rfl
  slots := fun _ => rfl
  presence := fun _ _ => rfl
  groups := fun _ _ => rfl

/-- What holds of an orderly run between its requests. -/
structure System.KeepsExact (system : System) (events : List Event) : Prop where
  /-- When all requests are over, the account store has answered to every permission change about
  everybody whom it concerned. -/
  answered : (system.run events).isQuiet = true → ∀ user connection,
    (system.run events).board.presence.contains user connection = true →
      currentPrincipal (system.moments events) user connection ≠ .awaited
  /-- Then a registered connection is in a known channel exactly if all guards of the channel grant it
  to the current principal of the connection, unless the last attempt on that membership failed. -/
  members : (system.run events).isQuiet = true → ∀ user connection,
    (system.run events).board.presence.contains user connection = true →
      ∀ channel, system.board.directory.governs channel = true →
        ¬Failed (system.moments events) connection channel →
        ((system.run events).board.groups.isMember channel connection = true ↔
          ∃ principal,
            currentPrincipal (system.moments events) user connection = .known principal ∧
            ∀ guard ∈ system.board.directory.guardsFor channel,
              (guard.decide principal channel).grants = true)
  /-- A connection that is not registered is in no channel. -/
  outside : ∀ connection,
    (∀ user, (system.run events).board.presence.contains user connection = false) →
      ∀ channel, (system.run events).board.groups.isMember channel connection = false
  /-- What is under way can be brought to its end. -/
  finishes : ∃ more, (∀ event ∈ more, event.GoesOn) ∧ Orderly system (events ++ more) ∧
    (system.run (events ++ more)).isQuiet = true

section Fresh

variable {system : System} {events : List Event}

theorem System.Fresh.steady (fresh : system.Fresh) : system.Steady := by
  rw [System.Steady, fresh.strands]
  exact List.forall_mem_nil _

/-- An orderly run stays orderly while its requests go on. -/
theorem Orderly.append_goOn (orderly : Orderly system events) {more : List Event}
    (goesOn : ∀ event ∈ more, event.GoesOn) : Orderly system (events ++ more) := by
  induction orderly with
  | done system =>
      induction more generalizing system with
      | nil => exact .done system
      | cons event rest induction =>
          exact .goOn (goesOn event List.mem_cons_self)
            (induction (fun other member => goesOn other (List.mem_cons_of_mem _ member)) _)
  | request quiet atHub after induction => exact .request quiet atHub induction
  | goOn goes after induction => exact .goOn goes induction
  | hangUp quiet mine after induction => exact .hangUp quiet mine induction
  | cutOff quiet mine after induction => exact .cutOff quiet mine induction

theorem System.Fresh.sound (fresh : system.Fresh) : Sound system [] where
  owned := by
    intro user other connection registered
    rw [fresh.presence] at registered
    cases registered
  outside := fun connection _ channel => fresh.groups channel connection
  known := by
    rw [fresh.strands]
    nofun
  attended := by
    intro user
    refine .free (by rw [fresh.strands]; nofun) fun connection registered => ?_
    rw [fresh.presence] at registered
    cases registered
  served := by
    intro user
    refine .untouched (fresh.slots user) (fun position strand found => ?_) rfl
    rw [fresh.strands] at found
    cases found

/-- Whatever is under way in an orderly run can be brought to its end. -/
theorem Orderly.exists_quiet (orderly : Orderly system events) (steady : system.Steady) :
    ∃ more, (∀ event ∈ more, event.GoesOn) ∧ Orderly system (events ++ more) ∧
      (system.run (events ++ more)).isQuiet = true := by
  obtain ⟨more, advances, finished⟩ := (steady.run events).exists_finish_all
  have goesOn (event : Event) (member : event ∈ more) : event.GoesOn := by
    obtain ⟨position, advances⟩ := advances event member
    cases advances <;> trivial
  refine ⟨more, goesOn, orderly.append_goOn goesOn, ?_⟩
  rw [System.run_append]
  exact List.all_eq_true.2 finished

/-- In an orderly run of a fresh system memberships are exact between requests. -/
theorem memberships_exact (fresh : system.Fresh) (orderly : Orderly system events) :
    system.KeepsExact events := by
  have sound := fresh.sound.run orderly
  rw [List.nil_append] at sound
  refine ⟨fun quiet user connection registered => ?_,
    fun quiet user connection registered channel governed spared => ?_, sound.outside,
    orderly.exists_quiet fresh.steady⟩
  · obtain ⟨work, newest, -⟩ := sound.settled quiet registered
    intro awaited
    rw [awaited] at newest
    cases newest
  · obtain ⟨work, newest, settled⟩ := sound.settled quiet registered
    rw [System.run_directory] at settled
    rw [(settled connection List.mem_cons_self channel governed).resolve_left spared]
    cases current : currentPrincipal (system.moments events) user connection with
    | awaited =>
        rw [current] at newest
        cases newest
    | nobody =>
        rw [current] at newest
        cases newest
        simp [Work.grants]
    | known principal =>
        rw [current] at newest
        cases newest
        have granted : system.board.directory.grants principal channel = true ↔
            ∀ guard ∈ system.board.directory.guardsFor channel,
              (guard.decide principal channel).grants = true := List.all_eq_true
        simpa [Work.grants] using granted

end Fresh

/-- An editor is connected; then the account store knows a plain user, and a permission change takes
the connection out of the channel. -/
def demotion : List Event :=
  [.submit (.connect editor ⟨"c1"⟩),
    .perform 0 (.question ⟨"news"⟩) .through,
    .perform 0 (.operation (.join ⟨"c1"⟩ ⟨"news"⟩)) .through,
    .setAccount firstUser (.known (Principal.ofUser firstUser)),
    .submit (.change .everybody),
    .visit 1,
    .perform 1 .account .through,
    .perform 1 (.question ⟨"news"⟩) .through,
    .perform 1 (.operation (.leave ⟨"c1"⟩ ⟨"news"⟩)) .through]

theorem memberships_exact_after_demotion :
    (quietNewsroom.run (demotion.take 3)).board.groups.isMember ⟨"news"⟩ ⟨"c1"⟩ = true ∧
      currentPrincipal (quietNewsroom.moments demotion) firstUser ⟨"c1"⟩ =
        .known (Principal.ofUser firstUser) ∧
      (quietNewsroom.run demotion).board.groups.isMember ⟨"news"⟩ ⟨"c1"⟩ = false := by
  have orderly : Orderly quietNewsroom demotion :=
    .request (by decide +kernel) (fun _ => rfl) (.goOn trivial (.goOn trivial (.goOn trivial
      (.request (by decide +kernel) trivial (.goOn trivial (.goOn trivial (.goOn trivial
        (.goOn trivial (.done _)))))))))
  have spared : ¬Failed (quietNewsroom.moments demotion) ⟨"c1"⟩ ⟨"news"⟩ := by
    have last : lastTouch? (quietNewsroom.moments demotion) ⟨"c1"⟩ ⟨"news"⟩ =
        some (.attempted 1 (some firstUser) ⟨.leave ⟨"c1"⟩ ⟨"news"⟩, .ok ()⟩) := by
      decide +kernel
    rintro ⟨touch, last', failed⟩
    rw [last] at last'
    cases last'
    cases failed
  have current : currentPrincipal (quietNewsroom.moments demotion) firstUser ⟨"c1"⟩ =
      .known (Principal.ofUser firstUser) := by
    decide +kernel
  refine ⟨by decide +kernel, current, Bool.eq_false_iff.2 fun member => ?_⟩
  obtain ⟨principal, known, granted⟩ :=
    ((memberships_exact (System.fresh_initial newsroom Limits.standard none) orderly).members
      (by decide +kernel) firstUser ⟨"c1"⟩ (by decide +kernel) ⟨"news"⟩ (by decide +kernel)
      spared).1 member
  cases current.symm.trans known
  have refused : ¬∀ guard ∈ newsroom.guardsFor ⟨"news"⟩,
      (guard.decide (Principal.ofUser firstUser) ⟨"news"⟩).grants = true := by
    decide +kernel
  exact refused granted

end ChannelMembership
