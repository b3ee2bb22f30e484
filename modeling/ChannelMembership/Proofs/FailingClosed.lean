import ChannelMembership.Proofs.NewestWork

/-!
# Look-ups that fail

When the account store cannot tell who a user is any more, all memberships of the user are revoked,
and then the failure is reported.  The revocation goes through the slot of the user.  If the slot is
idle, the strand that reports the failure has issued every leave itself.  If it is taken, the
revocation is parked there, and the failure is reported before anything is revoked.
-/

namespace ChannelMembership

/-- The answer of the account store names no principal of the user about whom a strand asks. -/
structure Moment.FailsLookUp (answer : Moment) (position : Nat) (user : UserKey)
    (error : LookupError) : Prop where
  /-- The answer comes about. -/
  event : ∃ passage, answer.event = .perform position .account passage
  /-- It is the strand that asks. -/
  asked : answer.system.strands[position]? = some (.lookingUp user)
  /-- All memberships are to be revoked, and the failure is to be reported. -/
  demanded : (answer.system.board.accounts user).demand user = (.revoke, some error)

/-- A strand has ended with a failed look-up. -/
def System.Reports (system : System) (position : Nat) (error : LookupError) : Prop :=
  system.strands[position]? = some (.ended (.refused (.lookup error)))

/-- A strand attempts an operation at some moment. -/
def Tried (moments : List Moment) (position : Nat) (operation : Operation) : Prop :=
  ∃ moment ∈ moments, ∃ runner? delivery,
    moment.attempt? = some (position, runner?, ⟨operation, delivery⟩)

/-- Whenever the failure is reported, every connection that was registered at the answer and still is
has been asked to leave every known channel since the answer. -/
def Moment.FailsClosed (answer : Moment) (position : Nat) (user : UserKey) (error : LookupError) :
    Prop :=
  ∀ after, (answer.next.run after).Reports position error →
    ∀ connection, answer.system.board.presence.contains user connection = true →
      (answer.next.run after).board.presence.contains user connection = true →
        ∀ channel, answer.system.board.directory.governs channel = true →
          ∃ strand, Tried (answer.next.moments after) strand (.leave connection channel)

/-- A strand that does some work for a user on some connections before anything else; every operation
of which it has an answer was tried. -/
inductive Strand.DoesFirst (directory : Directory) (user : UserKey) (work : Work)
    (found : List Connection) (tried : Operation → Prop) : Strand → Prop
  /-- The pass of the work is going on. -/
  | working {run : Run} {failure : Option LookupError} {groups : Groups}
    (serves : run.pass.Serves directory groups (fun _ _ => True) user work found)
    (recorded : ∀ operation ∈ run.pass.recorded, tried operation) :
    DoesFirst directory user work found tried (.running run failure)
  /-- The pass is over. -/
  | done {strand : Strand} (all : ∀ operation ∈ work.operations directory found, tried operation) :
    DoesFirst directory user work found tried strand
  /-- The strand has been given up. -/
  | dropped : DoesFirst directory user work found tried .dropped

namespace Strand

variable {directory : Directory} {user : UserKey} {work : Work} {found : List Connection}
  {tried tried' : Operation → Prop} {strand : Strand}

theorem doesFirst_advance {board : Switchboard} {groups : Groups} {run : Run}
    (serves : run.pass.Serves directory groups (fun _ _ => True) user work found)
    (recorded : ∀ operation ∈ run.pass.recorded, tried operation) (failure : Option LookupError) :
    (ofRunState failure (run.advance board).2).DoesFirst directory user work found tried := by
  cases finished : run.pass.outcome? with
  | none =>
      simp only [Run.advance, finished]
      exact .working serves recorded
  | some outcome =>
      exact .done fun operation issued =>
        recorded operation ((serves.recorded_of_outcome finished).symm.subset issued)

theorem DoesFirst.mono (does : strand.DoesFirst directory user work found tried)
    (kept : ∀ operation, tried operation → tried' operation) :
    strand.DoesFirst directory user work found tried' := by
  cases does with
  | working serves recorded =>
      exact .working serves fun operation member => kept _ (recorded operation member)
  | done all => exact .done fun operation issued => kept _ (all operation issued)
  | dropped => exact .dropped

theorem DoesFirst.perform {board : Switchboard}
    (does : strand.DoesFirst board.directory user work found tried) {passage : Passage}
    {spot : Spot} (kept : ∀ operation, tried operation → tried' operation)
    (tries : ∀ attempt, board.attempt? passage spot (strand.inquiry? spot) = some attempt →
      tried' attempt.operation) :
    (strand.perform board passage spot).2.DoesFirst board.directory user work found tried' := by
  cases does with
  | @working run failure groups serves recorded =>
      have here : run.pass.Serves board.directory board.groups (fun _ _ => True) user work found :=
        serves.mono (fun _ _ _ _ => trivial) fun _ _ _ => .inl trivial
      refine doesFirst_advance (here.perform (Excuses.everything _)) (fun operation now => ?_) failure
      rcases Pass.recorded_perform now with earlier | ⟨delivery, attempted⟩
      · exact kept operation (recorded operation earlier)
      · exact tries _ attempted
  | done all => exact .done fun operation issued => kept _ (all operation issued)
  | dropped => exact .dropped

/-- When the strand reports something, all operations of the work were tried. -/
theorem DoesFirst.tried_of_ended {conclusion : Conclusion}
    (does : (ended conclusion).DoesFirst directory user work found tried) :
    ∀ operation ∈ work.operations directory found, tried operation := by
  cases does with
  | done all => exact all

end Strand

section Tried

variable {moments : List Moment} {position : Nat} {operation : Operation}

theorem Tried.append (tried : Tried moments position operation) (later : List Moment) :
    Tried (moments ++ later) position operation := by
  obtain ⟨moment, member, attempted⟩ := tried
  exact ⟨moment, List.mem_append_left _ member, attempted⟩

/-- A membership on which an operation was tried was touched. -/
theorem Tried.touched (tried : Tried moments position operation) :
    ∃ touch, lastTouch? moments operation.connection operation.channel = some touch := by
  obtain ⟨⟨system, event⟩, member, runner?, delivery, attempted⟩ := tried
  have touched : Moment.touch? operation.connection operation.channel ⟨system, event⟩ =
      some (.attempted position runner? ⟨operation, delivery⟩) := by
    cases event with
    | perform other spot passage =>
        simp only [Moment.touch?, attempted]
        exact if_pos rfl
    | _ => cases attempted
  have present := List.mem_filterMap.2 ⟨_, member, touched⟩
  exact ⟨_, List.getLast?_eq_some_getLast (List.ne_nil_of_mem present)⟩

end Tried

namespace System

/-- A strand that does some work first has tried all of it when it ends. -/
theorem doesFirst_run {system : System} {position : Nat} {strand : Strand} {user : UserKey}
    {work : Work} {found : List Connection}
    (present : system.strands[position]? = some strand)
    (does : strand.DoesFirst system.board.directory user work found fun _ => False)
    (events : List Event) :
    ∃ after, (system.run events).strands[position]? = some after ∧
      after.DoesFirst system.board.directory user work found
        (Tried (system.moments events) position) := by
  induction events using List.reverseRecOn with
  | nil => exact ⟨strand, present, does.mono fun _ never => never.elim⟩
  | append_singleton events event induction =>
      obtain ⟨strand, present, does⟩ := induction
      rw [run_concat, moments_concat]
      have kept (operation : Operation) (tried : Tried (system.moments events) position operation) :=
        tried.append [⟨system.run events, event⟩]
      have later := does.mono kept
      obtain ⟨after, present', change⟩ :=
        Moment.strand_next ⟨system.run events, event⟩ present
      refine ⟨after, present', ?_⟩
      rcases change with rfl | ⟨spot, passage, happens, rfl⟩ | ⟨other, rfl, rfl⟩ | rfl | ⟨-, -, rfl⟩
      · exact later
      · rw [← system.run_directory events] at does ⊢
        refine does.perform kept fun attempt attempted => ?_
        refine ⟨_, List.mem_append_right _ List.mem_cons_self, strand.runner?, attempt.delivery, ?_⟩
        simp only at happens
        simp [Moment.attempt?, happens, present, attempted]
      · cases later with
        | done all => exact .done all
      · cases later with
        | working serves recorded => exact .working serves recorded
        | done all => exact .done all
        | dropped => exact .dropped
      · cases later with
        | working serves recorded => exact .dropped
        | done all => exact .done all
        | dropped => exact .dropped

end System

/-- What becomes of the memberships of a user whose look-up fails. -/
structure Moment.ReportsFailure (answer : Moment) (position : Nat) (user : UserKey)
    (error : LookupError) : Prop where
  /-- All leaves are issued before the failure is reported exactly if the revocation does not have to
  be parked, or there is nothing to leave. -/
  closes : answer.FailsClosed position user error ↔
    answer.system.board.slots.slot user = .idle ∨
      answer.system.board.presence.isOnline user = false ∨
        answer.system.board.directory.channels = []
  /-- If the slot is taken, the failure is reported at once, while the revocation is parked and every
  membership is still there. -/
  parked : answer.system.board.slots.slot user ≠ .idle →
    answer.system.board.presence.isOnline user = true →
      answer.next.Reports position error ∧
        answer.next.board.slots.slot user = .running (some .revoke) ∧
          answer.next.board.groups = answer.system.board.groups
  /-- If the slot is idle, the memberships that are left when the failure is reported are those that
  were joined again, unless something failed. -/
  rejoined : answer.system.board.slots.slot user = .idle →
    ∀ after, (answer.next.run after).Reports position error →
      ∀ connection, answer.system.board.presence.contains user connection = true →
        ∀ channel, answer.system.board.directory.governs channel = true →
          (∀ moment ∈ answer.next.moments after, ∀ touch,
            moment.touch? connection channel = some touch → touch.fails = false) →
          ((answer.next.run after).board.groups.isMember channel connection = true ↔
            LastTouch Touch.joins (answer.next.moments after) connection channel)
  /-- If moreover nothing else happens in the slot and nobody else touches the membership, there is
  none left. -/
  revoked : answer.system.board.slots.slot user = .idle →
    ∀ after, (answer.next.run after).Reports position error →
      ledger user (answer.next.moments after) = [] →
        ∀ connection, answer.system.board.presence.contains user connection = true →
          ∀ channel, answer.system.board.directory.governs channel = true →
            (∀ moment ∈ answer.next.moments after, ∀ touch,
              moment.touch? connection channel = some touch → touch.servesUser user = true) →
            (answer.next.run after).board.groups.isMember channel connection = false

/-- A run that enters an idle slot does its own work first. -/
theorem Strand.doesFirst_start {board : Switchboard} {user : UserKey} (work : Work)
    (idle : board.slots.slot user = .idle) (failure : Option LookupError)
    (tried : Operation → Prop) :
    (ofRunState failure (Run.start board user work).2).DoesFirst board.directory user work
      (board.presence.connections user) tried := by
  have serves := Pass.serves_start { board with slots := board.slots.set user (.running none) }
    board.groups (fun _ _ => True) user work
  simp only [Run.start, Slots.enter, idle]
  exact doesFirst_advance serves (by simp) failure

namespace Moment.FailsLookUp

variable {answer : Moment} {position : Nat} {user : UserKey} {error : LookupError}

/-- The failed look-up asks for a revocation. -/
theorem next_eq (fails : answer.FailsLookUp position user error) :
    answer.next = answer.system.put position
      (Strand.submit answer.system.board user .revoke (some error)) := by
  obtain ⟨passage, event⟩ := fails.event
  have resolved := Strand.resolve_eq answer.system.board user
  rw [fails.demanded] at resolved
  rw [next_of_perform event fails.asked, ← resolved]
  rfl

theorem strand_next (fails : answer.FailsLookUp position user error) :
    answer.next.strands[position]? =
      some (Strand.ofRunState (some error) (answer.system.board.submit user .revoke).2) := by
  rw [fails.next_eq]
  exact List.getElem?_set_self (List.getElem?_eq_some_iff.1 fails.asked).1

/-- In an idle slot, every connection has been asked to leave every known channel when the failure is
reported. -/
theorem tried (fails : answer.FailsLookUp position user error)
    (idle : answer.system.board.slots.slot user = .idle) {after : List Event}
    (reports : (answer.next.run after).Reports position error) {connection : Connection}
    (registered : answer.system.board.presence.contains user connection = true)
    {channel : Channel} (governed : answer.system.board.directory.governs channel = true) :
    Tried (answer.next.moments after) position (.leave connection channel) := by
  have online : answer.system.board.presence.isOnline user = true :=
    (Presence.isOnline_iff _ _).2 ⟨connection, registered⟩
  have started := fails.strand_next
  simp only [Switchboard.submit, online, if_true] at started
  have does := Strand.doesFirst_start .revoke idle (some error) fun _ => False
  rw [← answer.directory_next] at does
  obtain ⟨strand, present, does⟩ := System.doesFirst_run started does after
  cases Option.some.inj (present.symm.trans reports)
  refine does.tried_of_ended _ ((Work.mem_operations _ _).2 ⟨?_, ?_, rfl⟩)
  · exact (Presence.mem_connections _ _ _).2 registered
  · rwa [answer.directory_next]

theorem touched (fails : answer.FailsLookUp position user error)
    (idle : answer.system.board.slots.slot user = .idle) {after : List Event}
    (reports : (answer.next.run after).Reports position error) {connection : Connection}
    (registered : answer.system.board.presence.contains user connection = true)
    {channel : Channel} (governed : answer.system.board.directory.governs channel = true) :
    ∃ touch, lastTouch? (answer.next.moments after) connection channel = some touch :=
  (fails.tried idle reports registered governed).touched

/-- The work arrives at the slot, if the user is online. -/
theorem arrival? (fails : answer.FailsLookUp position user error)
    (online : answer.system.board.presence.isOnline user = true) :
    answer.arrival? = some (answer.arrivalOf position user (.revoke, some error) false) := by
  obtain ⟨passage, event⟩ := fails.event
  simp [Moment.arrival?, event, fails.asked, Moment.request?, online, fails.demanded]

theorem marks (fails : answer.FailsLookUp position user error)
    (idle : answer.system.board.slots.slot user = .idle)
    (online : answer.system.board.presence.isOnline user = true) :
    answer.marks user =
      [.arrived (answer.arrivalOf position user (.revoke, some error) false),
        .began .revoke (answer.system.board.presence.connections user)] := by
  have arrived := fails.arrival? online
  have mine : (answer.arrivalOf position user (.revoke, some error) false).user = user := rfl
  rw [marks_of_arrival arrived mine, opens_of_arrival? arrived]
  simp [arrivalOf, idle]

/-- Behind a run under way, the revocation is parked and the failure is reported at once. -/
theorem parked (fails : answer.FailsLookUp position user error)
    (taken : answer.system.board.slots.slot user ≠ .idle)
    (online : answer.system.board.presence.isOnline user = true) :
    answer.next.Reports position error ∧
      answer.next.board.slots.slot user = .running (some .revoke) ∧
        answer.next.board.groups = answer.system.board.groups := by
  cases held : answer.system.board.slots.slot user with
  | idle => exact absurd held taken
  | running waiting =>
      have submitted : answer.system.board.submit user .revoke =
          ({ answer.system.board with
              slots := answer.system.board.slots.set user (.running (some .revoke)) },
            .over .coalesced) := by
        simp only [Switchboard.submit, online, if_true]
        exact Run.start_of_running .revoke held
      have strand := fails.strand_next
      rw [submitted] at strand
      refine ⟨strand, ?_, ?_⟩
      · rw [fails.next_eq, Strand.submit_eq, submitted]
        exact Slots.slot_set_self _ _ _
      · rw [fails.next_eq, Strand.submit_eq, submitted]
        rfl

/-- A failure that is reported at once is reported before anything was tried. -/
theorem failsClosed_iff (fails : answer.FailsLookUp position user error) :
    answer.FailsClosed position user error ↔
      answer.system.board.slots.slot user = .idle ∨
        answer.system.board.presence.isOnline user = false ∨
          answer.system.board.directory.channels = [] := by
  constructor
  · intro closes
    by_cases idle : answer.system.board.slots.slot user = .idle
    · exact .inl idle
    · refine .inr ?_
      cases online : answer.system.board.presence.isOnline user with
      | false => exact .inl rfl
      | true =>
          refine .inr (List.eq_nil_iff_forall_not_mem.2 fun channel known => ?_)
          obtain ⟨connection, registered⟩ := (Presence.isOnline_iff _ _).1 online
          have still : answer.next.board.presence.contains user connection = true := by
            rw [fails.next_eq, Strand.submit_eq, System.put, Switchboard.submit_board]
            exact registered
          obtain ⟨strand, moment, never, -⟩ := closes [] (fails.parked idle online).1 connection
            registered still channel ((Directory.mem_channels _ _).1 known)
          cases never
  · intro free after reports connection registered still channel governed
    rcases free with idle | offline | unknown
    · exact ⟨position, fails.tried idle reports registered governed⟩
    · rw [(Presence.isOnline_iff _ _).2 ⟨connection, registered⟩] at offline
      cases offline
    · rw [← Directory.mem_channels, unknown] at governed
      cases governed

/-- When the failure is reported, a membership on which nothing failed is there exactly if it was
joined last. -/
theorem rejoined (fails : answer.FailsLookUp position user error)
    (idle : answer.system.board.slots.slot user = .idle) {after : List Event}
    (reports : (answer.next.run after).Reports position error) {connection : Connection}
    (registered : answer.system.board.presence.contains user connection = true)
    {channel : Channel} (governed : answer.system.board.directory.governs channel = true)
    (carried : ∀ moment ∈ answer.next.moments after, ∀ touch,
      moment.touch? connection channel = some touch → touch.fails = false) :
    (answer.next.run after).board.groups.isMember channel connection = true ↔
      LastTouch Touch.joins (answer.next.moments after) connection channel := by
  obtain ⟨touch, last⟩ := fails.touched idle reports registered governed
  obtain ⟨moment, member, touched⟩ := lastTouch?_mem last
  rw [System.isMember_run_of_lastTouch? _ _ last (carried moment member touch touched)]
  exact ⟨fun joins => ⟨touch, last, joins⟩, fun ⟨other, last', joins⟩ => by
    cases last.symm.trans last'
    exact joins⟩

/-- When the failure is reported and nothing else has happened in the slot, no membership is left
that only runs for the user touched. -/
theorem revoked (fails : answer.FailsLookUp position user error)
    (idle : answer.system.board.slots.slot user = .idle) {after : List Event}
    (reports : (answer.next.run after).Reports position error) {past : List Moment}
    (served : Served user (answer.next.run after) (past ++ answer :: answer.next.moments after))
    (quiet : ledger user (answer.next.moments after) = []) {connection : Connection}
    (registered : answer.system.board.presence.contains user connection = true)
    {channel : Channel} (governed : answer.system.board.directory.governs channel = true)
    (serves : ∀ moment ∈ answer.next.moments after, ∀ touch,
      moment.touch? connection channel = some touch → touch.servesUser user = true) :
    (answer.next.run after).board.groups.isMember channel connection = false := by
  have online : answer.system.board.presence.isOnline user = true :=
    (Presence.isOnline_iff _ _).2 ⟨connection, registered⟩
  have whole : ledger user (past ++ answer :: answer.next.moments after) =
      ledger user past ++
        [.arrived (answer.arrivalOf position user (.revoke, some error) false),
          .began .revoke (answer.system.board.presence.connections user)] := by
    rw [ledger_append, ledger_cons, quiet, fails.marks idle online]
    rfl
  cases served with
  | untouched idle' unserved nothing => simp [whole] at nothing
  | interrupted idle' unserved last undone turn =>
      have same := congrArg List.getLast? (whole.symm.trans last)
      simp at same
  | @standing opener state work found waiting standing =>
      have opened := standing.opened
      have pass := standing.pass
      have strand := standing.strand
      simp only [whole, arrivals_append, arrivals_arrived, arrivals_began, arrivals_nil,
        passes_append, passes_arrived, passes_began, passes_nil] at opened pass
      obtain rfl : answer.arrivalOf position user (.revoke, some error) false = opener := by
        simpa [arrivalOf, idle] using opened
      obtain ⟨rfl, rfl⟩ : .revoke = work ∧ answer.system.board.presence.connections user = found := by
        simpa using pass
      have finished := Option.some.inj (strand.symm.trans reports)
      obtain ⟨outcome, rfl⟩ : ∃ outcome, state = .over outcome := by
        rcases state with run | outcome
        · cases finished
        · exact ⟨outcome, rfl⟩
      cases standing.stands with
      | concluded idle' closes settled =>
          rw [System.run_directory, directory_next] at settled
          rcases settled connection ((Presence.mem_connections _ _ _).2 registered) channel governed
            with ⟨other, last, foreign⟩ | agrees
          · obtain ⟨touch, last'⟩ := fails.touched idle reports registered governed
            obtain ⟨moment, member, touched⟩ := lastTouch?_mem last'
            rw [List.append_cons, lastTouch?_append, last'] at last
            cases last
            simp [serves moment member _ touched] at foreign
          · exact agrees

end Moment.FailsLookUp

/-- A failed look-up is reported after every connection has been asked to leave every known channel,
unless the revocation has to be parked; then it is reported at once. -/
theorem leaves_precede_failure_iff {system : System} {user : UserKey}
    (resting : system.Resting user) {before : List Event} {event : Event} {position : Nat}
    {error : LookupError}
    (fails : Moment.FailsLookUp ⟨system.run before, event⟩ position user error) :
    Moment.ReportsFailure ⟨system.run before, event⟩ position user error where
  closes := fails.failsClosed_iff
  parked := fails.parked
  rejoined := fun idle _ reports _ registered _ governed carried =>
    fails.rejoined idle reports registered governed carried
  revoked := by
    intro idle after reports quiet connection registered channel governed serves
    have served := Served.run resting (before ++ event :: after)
    rw [System.run_append, System.moments_append] at served
    exact fails.revoked idle reports served quiet registered governed serves

/-- An editor is connected and a member of the channel; then the account store goes down, and a
permission change looks the user up with this strand. -/
def storeDown (strand : Nat) (meanwhile : List Event) : List Event :=
  [.submit (.connect editor ⟨"c1"⟩),
    .perform 0 (.question ⟨"news"⟩) .through,
    .perform 0 (.operation (.join ⟨"c1"⟩ ⟨"news"⟩)) .through,
    .setAccount firstUser (.failing "store down")] ++ meanwhile ++
  [.submit (.change (.listed [firstUser])), .visit strand]

theorem failsLookUp_storeDown :
    Moment.FailsLookUp ⟨quietNewsroom.run (storeDown 1 []), .perform 1 .account .through⟩ 1 firstUser
      ⟨firstUser, "store down"⟩ :=
  ⟨⟨_, rfl⟩, rfl, rfl⟩

theorem failsLookUp_storeDown_refreshing :
    Moment.FailsLookUp ⟨quietNewsroom.run (storeDown 2 [.submit (.refresh editor)]),
      .perform 2 .account .through⟩ 2 firstUser ⟨firstUser, "store down"⟩ :=
  ⟨⟨_, rfl⟩, rfl, rfl⟩

theorem revoked_when_store_down_in_newsroom :
    Moment.FailsClosed ⟨quietNewsroom.run (storeDown 1 []), .perform 1 .account .through⟩ 1
        firstUser ⟨firstUser, "store down"⟩ ∧
      ((quietNewsroom.run (storeDown 1 [])).step (.perform 1 .account .through) |>.run
        [.perform 1 (.operation (.leave ⟨"c1"⟩ ⟨"news"⟩)) .through]).board.groups.isMember ⟨"news"⟩
          ⟨"c1"⟩ = false := by
  have reported := leaves_precede_failure_iff (quietNewsroom_resting firstUser) failsLookUp_storeDown
  have idle : (quietNewsroom.run (storeDown 1 [])).board.slots.slot firstUser = .idle := by
    decide +kernel
  exact ⟨reported.closes.2 (.inl idle),
    reported.revoked idle [.perform 1 (.operation (.leave ⟨"c1"⟩ ⟨"news"⟩)) .through] rfl
      (by decide +kernel) ⟨"c1"⟩ (by decide +kernel) ⟨"news"⟩ (by decide +kernel)
      (by decide +kernel)⟩

/-- It is not so that a user has been asked to leave every known channel, and is a member of none of
them, when a failed look-up is reported. -/
theorem failure_reported_before_revocation :
    ¬∀ (system : System) (user : UserKey) (before : List Event) (event : Event) (position : Nat)
      (error : LookupError), system.Resting user →
      Moment.FailsLookUp ⟨system.run before, event⟩ position user error →
      Moment.FailsClosed ⟨system.run before, event⟩ position user error ∧
        ∀ after, (system.run (before ++ event :: after)).Reports position error →
          (∀ found ∈ (system.moments (before ++ event :: after)).filterMap Moment.attempt?,
            found.2.2.delivery = .ok ()) →
          ∀ connection, (system.run before).board.presence.contains user connection = true →
            (system.run (before ++ event :: after)).board.presence.contains user connection =
                true →
              ∀ channel, system.board.directory.governs channel = true →
                (system.run (before ++ event :: after)).board.groups.isMember channel connection =
                  false := by
  intro claim
  obtain ⟨-, absent⟩ := claim quietNewsroom firstUser (storeDown 2 [.submit (.refresh editor)])
    (.perform 2 .account .through) 2 ⟨firstUser, "store down"⟩ (quietNewsroom_resting firstUser)
    failsLookUp_storeDown_refreshing
  have present : (quietNewsroom.run (storeDown 2 [.submit (.refresh editor)] ++
      [.perform 2 .account .through])).board.groups.isMember ⟨"news"⟩ ⟨"c1"⟩ = true := by
    decide +kernel
  rw [absent [] rfl (by decide +kernel) ⟨"c1"⟩ (by decide +kernel) (by decide +kernel) ⟨"news"⟩
    (by decide +kernel)] at present
  cases present

end ChannelMembership
