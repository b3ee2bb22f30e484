import ChannelMembership.Proofs.Exactness
import ChannelMembership.Proofs.Undertakings

/-!
# Undertakings under way

Undertakings follow one another, and no call to the transport fails.  Consider one user and one
connection that nobody else uses.  The strands that attend to other users never touch the connection,
and the strand that attends to this user leads it to its memberships.  So every undertaking brings
the connection from its seat before to the seat that is the effect of the undertaking.
-/

namespace ChannelMembership

/-- Undertakings are under way that will leave a connection with some seat under a user. -/
structure Underway (directory : Directory) (account : Account) (user : UserKey)
    (connection : Connection) (system : System) (moments : List Moment) (seat : Seat) : Prop where
  /-- The directory stays as it is. -/
  directory_eq : system.board.directory = directory
  /-- What the account store knows about the user stays as it is. -/
  account_eq : system.board.accounts user = account
  /-- The connection is registered if its seat says so. -/
  registered : system.board.presence.contains user connection = seat.registered
  /-- The connection is registered under nobody else. -/
  owned : ∀ other, system.board.presence.contains other connection = true → other = user
  /-- Every strand that is not over attends to a user and is on course. -/
  onCourse : ∀ (position : Nat) (strand : Strand), system.strands[position]? = some strand →
    strand.isOver = true ∨ ∃ subject, strand.subject? = some subject ∧
      strand.OnCourse system.board user connection seat.memberships subject
  /-- No two strands attend to one user. -/
  alone : ∀ {position other : Nat} {strand strand' : Strand} {subject : UserKey},
    system.strands[position]? = some strand → strand.subject? = some subject →
      system.strands[other]? = some strand' → strand'.subject? = some subject → other = position
  /-- The connection has its memberships unless a strand attends to the user. -/
  settled : (∀ (position : Nat) (strand : Strand), system.strands[position]? = some strand →
    strand.subject? ≠ some user) → system.board.memberships connection = seat.memberships
  /-- Every user's runs follow one another. -/
  served : ∀ other, Served other system moments

/-- A request that is made changes no membership at once. -/
theorem System.memberships_submit (system : System) (request : Request) (connection : Connection) :
    (system.step (.submit request)).board.memberships connection =
      system.board.memberships connection :=
  funext fun channel =>
    @Moment.isMember_next_of_touch?_eq_none ⟨system, .submit request⟩ connection channel rfl

namespace Underway

variable {directory : Directory} {account : Account} {user : UserKey} {connection : Connection}
  {moments : List Moment} {seat : Seat}

section Answer

variable {moment : Moment}

/-- Nothing is lost when no strand goes on and nothing happens to the connection. -/
theorem bypass (underway : Underway directory account user connection moment.system moments seat)
    (strands : moment.next.strands = moment.system.strands)
    (presence : moment.next.board.presence = moment.system.board.presence)
    (accounts : moment.next.board.accounts = moment.system.board.accounts)
    (slots : moment.next.board.slots = moment.system.board.slots)
    (memberships : moment.next.board.memberships connection =
      moment.system.board.memberships connection) :
    Underway directory account user connection moment.next (moments ++ [moment]) seat where
  directory_eq := moment.directory_next.trans underway.directory_eq
  account_eq := by rw [accounts, underway.account_eq]
  registered := by rw [presence, underway.registered]
  owned := by
    rw [presence]
    exact underway.owned
  onCourse := by
    intro position strand found
    rw [strands] at found
    refine (underway.onCourse position strand found).imp_right ?_
    rintro ⟨subject, attends, course⟩
    exact ⟨subject, attends, course.mono moment.directory_next presence accounts (by rw [slots])
      fun _ => memberships⟩
  alone := by
    rw [strands]
    exact underway.alone
  settled := by
    rw [strands, memberships]
    exact underway.settled
  served := fun other => (underway.served other).next moment

/-- One strand goes on and stays on course. -/
theorem advance (underway : Underway directory account user connection moment.system moments seat)
    {position : Nat} {strand : Strand} {subject : UserKey} {moved : Switchboard × Strand}
    (found : moment.system.strands[position]? = some strand)
    (attends : strand.subject? = some subject)
    (next : moment.next = moment.system.put position moved)
    (presence : moved.1.presence = moment.system.board.presence)
    (accounts : moved.1.accounts = moment.system.board.accounts)
    (slots : ∀ other, other ≠ subject →
      moved.1.slots.slot other = moment.system.board.slots.slot other)
    (memberships : subject ≠ user →
      moved.1.memberships connection = moment.system.board.memberships connection)
    (course : moved.2.OnCourse moved.1 user connection seat.memberships subject) :
    Underway directory account user connection moment.next (moments ++ [moment]) seat := by
  have inside := (List.getElem?_eq_some_iff.1 found).1
  have directory_eq := moment.directory_next
  have strands : moment.next.strands = moment.system.strands.set position moved.2 := by
    rw [next]
    rfl
  have board : moment.next.board = moved.1 := by
    rw [next]
    rfl
  have here : moment.next.strands[position]? = some moved.2 := by
    rw [strands]
    exact List.getElem?_set_self inside
  have elsewhere {other : Nat} (apart : other ≠ position) :
      moment.next.strands[other]? = moment.system.strands[other]? := by
    rw [strands]
    exact List.getElem?_set_ne apart.symm
  have others {other : Nat} {strand' : Strand} {subject' : UserKey}
      (attends' : strand'.subject? = some subject') (apart : subject' ≠ subject) :
      moment.next.strands[other]? = some strand' ↔
        moment.system.strands[other]? = some strand' := by
    rw [strands]
    exact Strand.getElem?_set_of_ne found attends course.subject? attends' apart
  rw [board] at directory_eq
  refine ⟨?_, ?_, ?_, ?_, ?_, ?_, ?_, fun other => (underway.served other).next moment⟩
  · rw [board, directory_eq, underway.directory_eq]
  · rw [board, accounts, underway.account_eq]
  · rw [board, presence, underway.registered]
  · rw [board, presence]
    exact underway.owned
  · intro other strand' found'
    rw [board]
    by_cases same : other = position
    · subst same
      rw [here] at found'
      cases found'
      exact course.subject?.symm.imp_right fun stays => ⟨subject, stays, course⟩
    · have found'' := (elsewhere same).symm.trans found'
      refine (underway.onCourse other strand' found'').imp_right ?_
      rintro ⟨subject', attends', course'⟩
      have apart : subject' ≠ subject := by
        rintro rfl
        exact same (underway.alone found attends found'' attends')
      refine ⟨subject', attends', course'.mono directory_eq presence accounts
        (slots subject' apart) ?_⟩
      rintro rfl
      exact memberships apart.symm
  · intro first second one two subject' found₁ attends₁ found₂ attends₂
    by_cases same : subject' = subject
    · subst same
      have place {other : Nat} {strand' : Strand}
          (found' : moment.next.strands[other]? = some strand')
          (attends' : strand'.subject? = some subject') : other = position := by
        by_contra apart
        exact apart (underway.alone found attends ((elsewhere apart).symm.trans found') attends')
      exact (place found₂ attends₂).trans (place found₁ attends₁).symm
    · exact underway.alone ((others attends₁ same).1 found₁) attends₁
        ((others attends₂ same).1 found₂) attends₂
  · intro nobody
    rw [board]
    by_cases mine : subject = user
    · subst mine
      exact course.reached (course.subject?.resolve_left (nobody position moved.2 here))
    · rw [memberships mine]
      exact underway.settled fun other strand' found' attends' =>
        nobody other strand' ((others attends' (Ne.symm mine)).2 found') attends'

/-- The slot is idle while the account store is asked about its user. -/
theorem idle_of_lookingUp
    (underway : Underway directory account user connection moment.system moments seat)
    {position : Nat} {subject : UserKey}
    (found : moment.system.strands[position]? = some (.lookingUp subject)) :
    moment.system.board.slots.slot subject = .idle := by
  apply (underway.served subject).idle_of_unserved
  intro other strand found' serves
  have here := underway.alone found rfl found' (Strand.subject?_of_runner? serves)
  rw [here, found] at found'
  cases found'
  cases serves

/-- Undertakings go on. -/
theorem answer (moment : Moment)
    (underway : Underway directory account user connection moment.system moments seat)
    (answers : moment.event.Answers)
    (delivered : ∀ found ∈ moment.attempt?, found.2.2.delivery = .ok ()) :
    Underway directory account user connection moment.next (moments ++ [moment]) seat := by
  have nowhere (next : moment.next = moment.system) :
      Underway directory account user connection moment.next (moments ++ [moment]) seat :=
    underway.bypass (by rw [next]) (by rw [next]) (by rw [next]) (by rw [next]) (by rw [next])
  obtain ⟨system, event⟩ := moment
  cases event with
  | «open» other => exact underway.bypass rfl rfl rfl rfl rfl
  | take position => exact underway.bypass rfl rfl rfl rfl rfl
  | dropReceiver position => exact underway.bypass rfl rfl rfl rfl rfl
  | visit position =>
      cases found : system.strands[position]? with
      | none => exact nowhere (by simp [Moment.next, System.step, found])
      | some strand =>
          cases strand with
          | queued subject =>
              obtain finished | ⟨subject', attends, course⟩ := underway.onCourse position _ found
              · cases finished
              · cases attends
                exact underway.advance found rfl (Moment.next_of_visit rfl found) rfl rfl
                  (fun _ _ => rfl) (fun _ => rfl) course.visit
          | _ => exact nowhere (by simp [Moment.next, System.step, found])
  | perform position spot passage =>
      cases found : system.strands[position]? with
      | none => exact nowhere (by simp [Moment.next, System.step, found])
      | some strand =>
          have next := @Moment.next_of_perform ⟨system, .perform position spot passage⟩ _ _ _ _ rfl
            found
          obtain finished | ⟨subject, attends, course⟩ := underway.onCourse position strand found
          · obtain ⟨inside, rfl⟩ := List.getElem?_eq_some_iff.1 found
            refine nowhere (next.trans ?_)
            rw [Strand.perform_of_isOver finished, System.put, List.set_getElem_self]
          · have carried :
                Delivered (system.board.attempt? passage spot (strand.inquiry? spot)) := by
              intro attempt attempted
              refine delivered (position, strand.runner?, attempt) ?_
              simp [Moment.attempt?, found, Option.mem_def.1 attempted]
            refine underway.advance found attends next (Strand.presence_perform _ _ _ _) ?_ ?_ ?_ ?_
            · rw [Strand.perform_board]
            · exact fun other apart => Strand.slot_perform_of_ne _ passage spot attends apart
            · intro apart
              refine course.memberships_perform apart (Bool.eq_false_iff.2 fun present => ?_) _ _
              exact apart (underway.owned subject present)
            · refine course.perform (fun looking => ?_) carried
              rw [looking] at found
              exact underway.idle_of_lookingUp found
  | _ => cases answers

end Answer

section Begin

variable {system : System} {request : Request} {seat' : Seat}

/-- When all undertakings are over, the connection has the memberships of its seat. -/
theorem reached (underway : Underway directory account user connection system moments seat)
    (quiet : system.isQuiet = true) :
    system.board.memberships connection = seat.memberships := by
  refine underway.settled fun position strand found attends => ?_
  rw [Strand.subject?_of_isOver (System.isOver_of_isQuiet quiet found)] at attends
  cases attends

/-- A request is begun if its own strands are on course. -/
private theorem submit (underway : Underway directory account user connection system moments seat)
    (quiet : system.isQuiet = true)
    (registered : (system.step (.submit request)).board.presence.contains user connection =
      seat'.registered)
    (owned : ∀ other,
      (system.step (.submit request)).board.presence.contains other connection = true →
        other = user)
    (onCourse : ∀ strand ∈ (request.begin system.board).2, strand.isOver = true ∨
      ∃ subject, strand.subject? = some subject ∧
        strand.OnCourse (system.step (.submit request)).board user connection seat'.memberships
          subject)
    (alone : ∀ {index other : Nat} {strand strand' : Strand} {subject : UserKey},
      (request.begin system.board).2[index]? = some strand → strand.subject? = some subject →
        (request.begin system.board).2[other]? = some strand' →
          strand'.subject? = some subject → other = index)
    (settled : (∀ strand ∈ (request.begin system.board).2, strand.subject? ≠ some user) →
      (system.step (.submit request)).board.memberships connection = seat'.memberships) :
    Underway directory account user connection (system.step (.submit request))
      (moments ++ [⟨system, .submit request⟩]) seat' where
  directory_eq := (system.step_directory _).trans underway.directory_eq
  account_eq := by rw [system.step_accounts (by simp), underway.account_eq]
  registered := registered
  owned := owned
  onCourse := by
    intro position strand found
    rcases List.mem_append.1 (List.mem_of_getElem? found) with old | new
    · exact .inl (List.all_eq_true.1 quiet strand old)
    · exact onCourse strand new
  alone := by
    intro position other strand strand' subject found attends found' attends'
    obtain ⟨index, rfl, new⟩ := System.index_of_subject quiet found attends
    obtain ⟨index', rfl, new'⟩ := System.index_of_subject quiet found' attends'
    rw [alone new attends new' attends']
  settled := by
    intro nobody
    refine settled fun strand member attends => ?_
    obtain ⟨position, found⟩ :=
      List.mem_iff_getElem?.1 (List.mem_append_right system.strands member)
    exact nobody position strand found attends
  served := fun other => (underway.served other).next ⟨system, .submit request⟩

/-- What becomes of the memberships of the connection when the user is looked at. -/
theorem refreshed (underway : Underway directory account user connection system moments seat)
    (quiet : system.isQuiet = true) :
    system.board.refreshed user connection =
      if seat.registered = true then
        (account.demand user).1.result directory seat.memberships
      else seat.memberships := by
  rw [Switchboard.refreshed, underway.registered, underway.account_eq, underway.directory_eq,
    underway.reached quiet]

/-- A permission change leads the connections of those whom it concerns to new memberships. -/
theorem change (underway : Underway directory account user connection system moments seat)
    (quiet : system.isQuiet = true) (audience : Audience) :
    Underway directory account user connection (system.step (.submit (.change audience)))
      (moments ++ [⟨system, .submit (.change audience)⟩])
      ((Undertaking.change audience).effect directory account user connection seat) := by
  have begun := (Undertaking.Begins.change audience).contains_run directory account
    underway.registered
  have refreshed := underway.refreshed quiet
  have concerned (registered : seat.registered = true) :=
    audience.mem_members_iff (underway.registered.trans registered)
  refine underway.submit quiet begun underway.owned (fun strand member => ?_) ?_ fun nobody => ?_
  · obtain ⟨subject, among, rfl⟩ := List.mem_map.1 member
    refine .inr ⟨subject, rfl, ?_⟩
    by_cases mine : subject = user
    · subst mine
      refine .own (.waiting (.inl rfl) (Eq.trans ?_ refreshed.symm))
      cases registered : seat.registered with
      | false => simp [Undertaking.effect, registered]
      | true => simp [Undertaking.effect, registered, (concerned registered).1 among]
    · have awaits : (Strand.queued subject).Attends system.board (fun _ _ => True)
          (fun _ => .awaited) subject := .queued fun _ _ => rfl
      exact .foreign mine awaits
  · intro index other strand strand' subject found attends found' attends'
    exact audience.index_unique _ found attends found' attends'
  · refine (underway.reached quiet).trans ?_
    have absent : user ∉ audience.members system.board.presence := fun among =>
      nobody _ (List.mem_map.2 ⟨user, among, rfl⟩) rfl
    cases registered : seat.registered with
    | false => simp [Undertaking.effect, registered]
    | true =>
        rw [concerned registered, Bool.not_eq_true] at absent
        simp [Undertaking.effect, registered, absent]

/-- The strand of a connection that is set up is on course. -/
private theorem onCourse_connect
    (underway : Underway directory account user connection system moments seat)
    (quiet : system.isQuiet = true) (subject : UserKey) (claims : List Claim)
    (other : Connection) :
    (Strand.ofAssignment subject (Assignment.start
        { system.board with presence := system.board.presence.add subject other } subject
        ⟨some subject, claims⟩ other).2 true).OnCourse
      (system.step (.submit (.connect ⟨some subject, claims⟩ other))).board user connection
      ((Undertaking.connect ⟨some subject, claims⟩ other).effect directory account user connection
        seat).memberships subject := by
  have directory_eq := (system.step_directory
    (.submit (.connect ⟨some subject, claims⟩ other))).trans underway.directory_eq
  have reached := (system.memberships_submit (.connect ⟨some subject, claims⟩ other)
    connection).trans (underway.reached quiet)
  have serves {excused : Connection → Channel → Prop}
      (absent : ∀ channel, excused other channel ∨
        system.board.groups.isMember channel other = false) :=
    Assignment.serves_start
      { system.board with presence := system.board.presence.add subject other } subject
      ⟨some subject, claims⟩ absent
  by_cases mine : subject = user
  · subst mine
    by_cases here : other = connection
    · subst here
      have former (channel : Channel) : seat.memberships channel = true ∨
          system.board.groups.isMember channel other = false := by
        rw [← underway.reached quiet, ← Bool.not_eq_true]
        exact Decidable.em _
      refine .own (Strand.leads_ofAssignment (serves former) ?_ fun channel stays => ?_)
      · rw [directory_eq]
        simp [Undertaking.effect]
      · rw [directory_eq] at stays
        rw [reached]
        rcases stays with member | ungoverned
        · simp [Undertaking.effect, Directory.joined, member]
        · simp [Undertaking.effect, Directory.joined, ungoverned]
    · refine .own (Strand.leads_ofAssignment_of_ne here (serves fun _ => .inl trivial) ?_)
      simpa [Undertaking.effect, here] using reached
  · have registered : (system.step
        (.submit (.connect ⟨some subject, claims⟩ other))).board.presence.contains subject other =
          true :=
      (Presence.contains_add _ _ _ _ _).2 (.inl ⟨rfl, rfl⟩)
    have settled (another : Connection) : (system.step
        (.submit (.connect ⟨some subject, claims⟩ other))).board.Exact (fun _ _ => True)
          (fun _ => .known ⟨some subject, claims⟩) another :=
      ⟨.reconcile ⟨some subject, claims⟩, rfl, fun _ _ _ _ => .inl trivial⟩
    exact .foreign mine (Strand.attends_ofAssignment registered rfl (serves fun _ => .inl trivial)
      fun another _ _ => settled another)

/-- A connection that is set up is led to its channels. -/
theorem connect (underway : Underway directory account user connection system moments seat)
    (quiet : system.isQuiet = true) (principal : Principal) (other : Connection)
    (mine : ∀ subject, principal.user = some subject → other = connection → subject = user) :
    Underway directory account user connection
      (system.step (.submit (.connect principal other)))
      (moments ++ [⟨system, .submit (.connect principal other)⟩])
      ((Undertaking.connect principal other).effect directory account user connection seat) := by
  have begun := (Undertaking.Begins.connect principal other).contains_run directory account
    underway.registered
  have presence := system.step_presence (.submit (.connect principal other))
  have memberships := (system.memberships_submit (.connect principal other) connection).trans
    (underway.reached quiet)
  obtain ⟨known, claims⟩ := principal
  cases known with
  | none =>
      refine underway.submit quiet begun ?_ (fun strand member => ?_) ?_ fun _ => ?_
      · rw [presence]
        exact underway.owned
      · cases List.mem_singleton.1 member
        exact .inl rfl
      · intro index another strand strand' subject found attends
        cases List.mem_singleton.1 (List.mem_of_getElem? found)
        cases attends
      · simpa [Undertaking.effect] using memberships
  | some subject =>
      have course := underway.onCourse_connect quiet subject claims other
      refine underway.submit quiet begun ?_ (fun strand member => ?_) ?_ fun nobody => ?_
      · intro another registered
        rw [presence, Presence.contains_add] at registered
        rcases registered with ⟨rfl, rfl⟩ | before
        · exact mine another rfl rfl
        · exact underway.owned another before
      · cases List.mem_singleton.1 member
        exact course.subject?.symm.imp_right fun attends => ⟨subject, attends, course⟩
      · intro index another strand strand' subject' found attends found' attends'
        have first := (List.getElem?_eq_some_iff.1 found).1
        have second := (List.getElem?_eq_some_iff.1 found').1
        exact (Nat.lt_one_iff.1 second).trans (Nat.lt_one_iff.1 first).symm
      · by_cases same : subject = user
        · subst same
          exact course.reached (course.subject?.resolve_left (nobody _ List.mem_cons_self))
        · simpa [Undertaking.effect, same] using memberships

/-- A connection that hangs up is led out of all its channels. -/
theorem hangUp (underway : Underway directory account user connection system moments seat)
    (quiet : system.isQuiet = true) {other : UserKey} {another : Connection}
    {opening : List Event} (begins : (Undertaking.hangUp other another).Begins opening)
    (mine : another = connection → other = user) :
    Underway directory account user connection (system.run opening)
      (moments ++ system.moments opening)
      ((Undertaking.hangUp other another).effect directory account user connection seat) := by
  have board : (system.run opening).board.directory = system.board.directory ∧
      (system.run opening).board.accounts = system.board.accounts ∧
        (system.run opening).board.presence = system.board.presence.remove other another ∧
          (system.run opening).board.groups = system.board.groups.expel another ∧
            (system.run opening).strands = system.strands := by
    cases begins <;> exact ⟨rfl, rfl, rfl, rfl, rfl⟩
  obtain ⟨directory_eq, accounts, presence, groups, strands⟩ := board
  have finished (position : Nat) (strand : Strand)
      (found : (system.run opening).strands[position]? = some strand) : strand.isOver = true := by
    rw [strands] at found
    exact System.isOver_of_isQuiet quiet found
  refine ⟨?_, ?_, begins.contains_run directory account underway.registered, ?_,
    fun position strand found => .inl (finished position strand found), ?_, fun _ => ?_,
    fun subject => (underway.served subject).goOn opening⟩
  · rw [directory_eq, underway.directory_eq]
  · rw [accounts, underway.account_eq]
  · intro subject registered
    rw [presence, Presence.contains_remove] at registered
    exact underway.owned subject registered.2
  · intro position position' strand strand' subject found attends
    rw [Strand.subject?_of_isOver (finished position strand found)] at attends
    cases attends
  · funext channel
    have before : system.board.groups.isMember channel connection = seat.memberships channel :=
      congrFun (underway.reached quiet) channel
    rw [Switchboard.memberships, groups, Bool.eq_iff_iff, Groups.isMember_expel, before]
    by_cases here : another = connection
    · subst here
      simp [Undertaking.effect, mine rfl, Seat.empty]
    · simp [Undertaking.effect, here, Ne.symm here]

/-- An undertaking begins, and the connection is on the way to the seat after it. -/
theorem begin (underway : Underway directory account user connection system moments seat)
    (quiet : system.isQuiet = true) {undertaking : Undertaking} {opening : List Event}
    (begins : undertaking.Begins opening)
    (mine : ∀ other, undertaking.party? = some (other, connection) → other = user) :
    Underway directory account user connection (system.run opening)
      (moments ++ system.moments opening)
      (undertaking.effect directory account user connection seat) := by
  cases begins with
  | connect principal other =>
      refine underway.connect quiet principal other fun subject known here => mine subject ?_
      simp [Undertaking.party?, known, here]
  | change audience => exact underway.change quiet audience
  | hangUp other another =>
      refine underway.hangUp quiet (.hangUp other another) ?_
      rintro rfl
      exact mine other rfl
  | cutOff other another =>
      refine underway.hangUp quiet (.cutOff other another) ?_
      rintro rfl
      exact mine other rfl

/-- Undertakings one after the other, of which nobody else uses the connection, lead it to the seat
after all of them. -/
theorem run {undertakings : List Undertaking} {events : List Event}
    (sequential : Sequential system undertakings events)
    (underway : Underway directory account user connection system moments seat)
    (delivered : ∀ moment ∈ system.moments events, ∀ found ∈ moment.attempt?,
      found.2.2.delivery = .ok ())
    (mine : ∀ other, (other, connection) ∈ undertakings.filterMap Undertaking.party? →
      other = user) :
    Underway directory account user connection (system.run events)
      (moments ++ system.moments events)
      (Undertaking.effects directory account user connection seat undertakings) := by
  induction sequential generalizing moments seat with
  | done system => simpa [System.moments] using underway
  | @undertake system undertaking undertakings opening rest quiet begins after induction =>
      have begun := underway.begin quiet begins fun other party =>
        mine other (List.mem_filterMap.2 ⟨undertaking, List.mem_cons_self, party⟩)
      rw [System.moments_append] at delivered ⊢
      rw [System.run_append, ← List.append_assoc]
      refine induction begun (fun moment later => ?_) fun other party => ?_
      · exact delivered moment (List.mem_append_right _ later)
      · obtain ⟨undertaking', member, party⟩ := List.mem_filterMap.1 party
        exact mine other (List.mem_filterMap.2
          ⟨undertaking', List.mem_cons_of_mem _ member, party⟩)
  | @answer system undertakings event rest answers after induction =>
      have later := induction
        (answer ⟨system, event⟩ underway answers (delivered _ List.mem_cons_self))
        (fun moment member => delivered moment (List.mem_cons_of_mem _ member)) mine
      rwa [List.append_assoc] at later

end Begin

end Underway

end ChannelMembership
