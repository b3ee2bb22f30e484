import ChannelMembership.Proofs.NewestWork

/-!
# Work that is resumed

A run that is given up leaves its newest work undone, and the work arrives once more when it is
resumed.  So the work that arrives last prevails, and that may be work older than the newest request:
the memberships are those of the newest request only if the two grant the same channels.  They do if
no work was undone when the newest request was made.
-/

namespace ChannelMembership

/-- No work of the user is lost when a run is given up. -/
def Kept (user : UserKey) (moments : List Moment) : Prop :=
  ∀ work, .interrupted work false ∉ ledger user moments

theorem kept_of_events (system : System) (user : UserKey) {events : List Event}
    (kept : ∀ event ∈ events, ∀ position, event ≠ .abandon position false) :
    Kept user (system.moments events) := by
  intro work interrupted
  obtain ⟨moment, member, marked⟩ := List.mem_flatMap.1 interrupted
  obtain ⟨position, event⟩ := Moment.event_of_interrupted marked
  exact kept _ (System.event_mem_of_moments member) position event

variable {system : System} {user : UserKey}

/-- When nothing is left to be done, the work that arrived last has prevailed. -/
theorem last_arrival_prevails (resting : system.Resting user) {events : List Event}
    (kept : Kept user (system.moments events))
    (undisturbed : Undisturbed user (system.moments events))
    (nonempty : ledger user (system.moments events) ≠ [])
    (released : (system.run events).board.slots.slot user = .idle)
    (finished : ∀ work, (user, work) ∉ (system.run events).undone) :
    ∃ last found, (arrivals (ledger user (system.moments events))).getLast? = some last ∧
      (passes (ledger user (system.moments events))).getLast? = some (last.work, found) ∧
        last.work.Enforced system.board.directory (system.run events).board.groups found := by
  obtain ⟨opener, outcome, work, found, standing⟩ :=
    (Served.run resting events).standing_of_idle released nonempty fun work keeps given undone => by
      cases keeps with
      | false => exact kept work (List.mem_of_getLast? given)
      | true => exact finished work (undone rfl)
  obtain ⟨last, newest, rfl⟩ := standing.newest
  have enforced := undisturbed.enforced standing.pass standing.settled
  rw [System.run_directory] at enforced
  exact ⟨last, found, newest, standing.pass, enforced⟩

/-- All that was asked for last or is left to be done is this work. -/
structure Agreed (user : UserKey) (system : System) (moments : List Moment) (work : Work) :
    Prop where
  /-- It is the work that arrived last. -/
  newest : ∃ last, (arrivals (ledger user moments)).getLast? = some last ∧ last.work = work
  /-- It is the only work left undone. -/
  undone : ∀ other, (user, other) ∈ system.undone → other = work

/-- As long as no other request is made, the work agreed on stays so. -/
theorem Agreed.next (moment : Moment) {moments : List Moment} {work : Work}
    (agreed : Agreed user moment.system moments work) (served : Served user moment.system moments)
    (resumed : ∀ arrival ∈ arrivals (moment.marks user), arrival.resumed = true) :
    Agreed user moment.next (moments ++ [moment]) work where
  newest := by
    rw [ledger_concat, arrivals_append, List.getLast?_append]
    cases arrived : (arrivals (moment.marks user)).getLast? with
    | none => simpa [arrived] using agreed.newest
    | some arrival =>
        have member := List.mem_of_getLast? arrived
        have left := Moment.undone_of_resumed member (resumed arrival member)
        exact ⟨arrival, rfl, agreed.undone _ left⟩
  undone := by
    intro other left
    rcases moment.undone_of_next left with before | ⟨kept, interrupted⟩
    · exact agreed.undone other before
    · obtain ⟨arrival, last, rfl⟩ := served.newest_of_interrupted interrupted
      obtain ⟨same, last', rfl⟩ := agreed.newest
      rw [last] at last'
      cases last'
      rfl

/-- The request made last is agreed on when it arrives, if no work is undone at that moment. -/
theorem agreed_of_arrival (moment : Moment) (moments : List Moment) {newest : Arrival}
    (arrived : moment.arrival? = some newest) (mine : newest.user = user)
    (nothing : ∀ work, (user, work) ∉ moment.system.undone) :
    Agreed user moment.next (moments ++ [moment]) newest.work where
  newest := by
    refine ⟨newest, ?_, rfl⟩
    rw [ledger_concat, Moment.marks_of_arrival arrived mine]
    split <;> simp
  undone := by
    intro other left
    rcases moment.undone_of_next left with before | ⟨kept, interrupted⟩
    · exact absurd before (nothing other)
    · rw [Moment.marks_of_arrival arrived mine] at interrupted
      split at interrupted <;> simp at interrupted

theorem agreed_run (resting : system.Resting user) {before after : List Event} {event : Event}
    {newest : Arrival} (arrived : Moment.arrival? ⟨system.run before, event⟩ = some newest)
    (mine : newest.user = user)
    (later : ∀ arrival ∈ arrivals (ledger user ((system.run (before ++ [event])).moments after)),
      arrival.resumed = true)
    (nothing : ∀ work, (user, work) ∉ (system.run before).undone) :
    Agreed user (system.run (before ++ [event] ++ after))
      (system.moments (before ++ [event] ++ after)) newest.work := by
  induction after using List.reverseRecOn with
  | nil =>
      rw [List.append_nil, System.run_concat, System.moments_concat]
      exact agreed_of_arrival ⟨system.run before, event⟩ _ arrived mine nothing
  | append_singleton after last induction =>
      rw [System.moments_concat, ledger_concat, arrivals_append] at later
      have agreed := induction fun arrival member =>
        later arrival (List.mem_append_left _ member)
      rw [← List.append_assoc, System.run_concat, System.moments_concat]
      refine Agreed.next ⟨system.run (before ++ [event] ++ after), last⟩ agreed
        (Served.run resting _) fun arrival member => later arrival (List.mem_append_right _ ?_)
      rwa [← System.run_append]

/-- When all requests for a user and all resumptions are done, the memberships are those of the newest
request exactly if the work that arrived last grants the same channels, and that is the work of the
newest request itself if no work was undone when the request was made. -/
theorem newest_request_prevails_iff (resting : system.Resting user) (before after : List Event)
    (event : Event) (newest : Arrival)
    (arrived : Moment.arrival? ⟨system.run before, event⟩ = some newest)
    (mine : newest.user = user)
    (later : ∀ arrival ∈ arrivals (ledger user ((system.run (before ++ [event])).moments after)),
      arrival.resumed = true)
    (kept : Kept user (system.moments (before ++ [event] ++ after)))
    (undisturbed : Undisturbed user (system.moments (before ++ [event] ++ after)))
    (released : (system.run (before ++ [event] ++ after)).board.slots.slot user = .idle)
    (finished : ∀ work, (user, work) ∉ (system.run (before ++ [event] ++ after)).undone) :
    ∃ last found,
      (arrivals (ledger user (system.moments (before ++ [event] ++ after)))).getLast? = some last ∧
      (passes (ledger user (system.moments (before ++ [event] ++ after)))).getLast? =
        some (last.work, found) ∧
      last.work.Enforced system.board.directory
        (system.run (before ++ [event] ++ after)).board.groups found ∧
      (newest.work.Enforced system.board.directory
          (system.run (before ++ [event] ++ after)).board.groups found ↔
        found = [] ∨ ∀ channel, system.board.directory.governs channel = true →
          last.work.grants system.board.directory channel =
            newest.work.grants system.board.directory channel) ∧
      ((∀ work, (user, work) ∉ (system.run before).undone) → last.work = newest.work) := by
  have marked : .arrived newest ∈ ledger user (system.moments (before ++ [event] ++ after)) := by
    rw [System.moments_append, System.moments_concat]
    simp only [ledger, List.flatMap_append, List.mem_append]
    refine .inl (.inr ?_)
    simp only [List.flatMap_cons, List.flatMap_nil, List.append_nil]
    rw [Moment.marks_of_arrival arrived mine]
    split <;> simp
  obtain ⟨last, found, last_eq, pass, enforced⟩ := last_arrival_prevails resting kept undisturbed
    (List.ne_nil_of_mem marked) released finished
  refine ⟨last, found, last_eq, pass, enforced, ⟨fun newer => ?_, fun agree => ?_⟩, ?_⟩
  · cases found with
    | nil => exact .inl rfl
    | cons connection rest =>
        refine .inr fun channel governed => ?_
        rw [← enforced connection List.mem_cons_self channel governed]
        exact newer connection List.mem_cons_self channel governed
  · intro connection member channel governed
    rcases agree with none | same
    · rw [none] at member
      cases member
    · rw [← same channel governed]
      exact enforced connection member channel governed
  · intro nothing
    obtain ⟨other, other_eq, same⟩ := (agreed_run resting arrived mine later nothing).newest
    rw [last_eq] at other_eq
    cases other_eq
    exact same

/-- The refresh of an editor is given up while the guard is asked, and it is resumed at once. -/
def resumedRefresh : List Event :=
  [.perform 0 (.question ⟨"news"⟩) .through,
    .abandon 0 true,
    .resume,
    .perform 1 (.question ⟨"news"⟩) .through,
    .perform 1 (.operation (.join ⟨"c1"⟩ ⟨"news"⟩)) .through]

theorem resumed_refresh_prevails_in_newsroom :
    ∃ last found,
      (passes (ledger firstUser (quietNewsroom.moments ([.register firstUser ⟨"c1"⟩] ++
        [.submit (.refresh editor)] ++ resumedRefresh)))).getLast? = some (last, found) ∧
      last = .reconcile editor := by
  have nothing : (quietNewsroom.run [.register firstUser ⟨"c1"⟩]).undone = [] := by decide +kernel
  have finished : (quietNewsroom.run ([.register firstUser ⟨"c1"⟩] ++
      [.submit (.refresh editor)] ++ resumedRefresh)).undone = [] := by decide +kernel
  obtain ⟨last, found, -, pass, -, -, same⟩ :=
    newest_request_prevails_iff (quietNewsroom_resting firstUser) [.register firstUser ⟨"c1"⟩]
      resumedRefresh (.submit (.refresh editor)) ⟨firstUser, .reconcile editor, none, 0, false, true⟩
      (by decide +kernel) rfl (by decide +kernel)
      (kept_of_events _ _ (by simp [resumedRefresh]))
      (undisturbed_of_attempts (by simp [resumedRefresh]) (by decide +kernel))
      (by decide +kernel) (by intro work left; rw [finished] at left; cases left)
  exact ⟨last.work, found, pass, same (by intro work left; rw [nothing] at left; cases left)⟩

/-- A permission change concerns two users.  While the first is looked up, the second is refreshed as
an editor, and that refresh is given up while the guard is asked. -/
def interruptedRefresh : List Event :=
  [.register firstUser ⟨"c1"⟩,
    .register secondUser ⟨"c2"⟩,
    .setAccount firstUser (.known (Principal.ofUser firstUser)),
    .setAccount secondUser (.known (Principal.ofUser secondUser)),
    .submit (.change (.listed [firstUser, secondUser])),
    .visit 0,
    .visit 1,
    .submit (.refresh ((Principal.ofUser secondUser).withRole "editor")),
    .abandon 2 true]

/-- The look-ups of the change are answered and its refreshes carried out; then the refresh that was
given up is resumed. -/
def belatedResumption : List Event :=
  [.perform 1 (.question ⟨"news"⟩) .through,
    .perform 0 .account .through,
    .perform 0 (.question ⟨"news"⟩) .through,
    .perform 0 (.operation (.leave ⟨"c1"⟩ ⟨"news"⟩)) .through,
    .perform 1 (.operation (.leave ⟨"c2"⟩ ⟨"news"⟩)) .through,
    .resume,
    .perform 3 (.question ⟨"news"⟩) .through,
    .perform 3 (.operation (.join ⟨"c2"⟩ ⟨"news"⟩)) .through]

/-- It is not so that the newest request prevails whenever undone work is resumed. -/
theorem resumed_work_overtakes_newest_request :
    ¬∀ (system : System) (user : UserKey) (before after : List Event) (event : Event)
      (newest : Arrival), system.Resting user →
      Moment.arrival? ⟨system.run before, event⟩ = some newest → newest.user = user →
      newest.resumed = false →
      (∀ arrival ∈ arrivals (ledger user ((system.run (before ++ [event])).moments after)),
        arrival.resumed = true) →
      Kept user (system.moments (before ++ [event] ++ after)) →
      Undisturbed user (system.moments (before ++ [event] ++ after)) →
      (system.run (before ++ [event] ++ after)).board.slots.slot user = .idle →
      (∀ work, (user, work) ∉ (system.run (before ++ [event] ++ after)).undone) →
      ∀ work found,
        (passes (ledger user (system.moments (before ++ [event] ++ after)))).getLast? =
          some (work, found) →
        newest.work.Enforced system.board.directory
          (system.run (before ++ [event] ++ after)).board.groups found := by
  intro claim
  have finished : (quietNewsroom.run (interruptedRefresh ++
      [.perform 1 .account .through] ++ belatedResumption)).undone = [] := by
    decide +kernel
  have enforced := claim quietNewsroom secondUser interruptedRefresh belatedResumption
    (.perform 1 .account .through)
    ⟨secondUser, .reconcile (Principal.ofUser secondUser), none, 1, false, true⟩
    (quietNewsroom_resting secondUser) (by decide +kernel) rfl rfl (by decide +kernel)
    (kept_of_events _ _ (by simp [interruptedRefresh, belatedResumption]))
    (undisturbed_of_attempts (by simp [interruptedRefresh, belatedResumption])
      (by decide +kernel))
    (by decide +kernel) (by intro work left; rw [finished] at left; cases left)
    (.reconcile ((Principal.ofUser secondUser).withRole "editor")) [⟨"c2"⟩] (by decide +kernel)
    ⟨"c2"⟩ List.mem_cons_self ⟨"news"⟩ (by decide +kernel)
  have member : (quietNewsroom.run (interruptedRefresh ++
      [.perform 1 .account .through] ++ belatedResumption)).board.groups.isMember
        ⟨"news"⟩ ⟨"c2"⟩ = true := by decide +kernel
  have refused : (Work.reconcile (Principal.ofUser secondUser)).grants newsroom ⟨"news"⟩ = false := by
    decide +kernel
  rw [member] at enforced
  exact absurd (enforced.trans refused) nofun

end ChannelMembership
