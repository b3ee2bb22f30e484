import Mathlib.Data.List.Induction
import ChannelMembership.Proofs.Switchboard.Strand
import ChannelMembership.Switchboard.System

/-!
# Moments

The history of a run of the system is the list of its moments: each event together with the system
as it was when the event happened.  A membership is touched by an attempt to change it and by the
transport closing its connection, and by nothing else; so the last touch tells whether the
connection is a member.
-/

namespace ChannelMembership

/-- The user about whom the account store is asked. -/
def Inquiry.user? : Inquiry → Option UserKey
  | account user => some user
  | _ => none

/-- Only a look-up asks the account store. -/
theorem Strand.user?_inquiry?_eq_some_iff {strand : Strand} {spot : Spot} {user : UserKey} :
    (strand.inquiry? spot).bind Inquiry.user? = some user ↔
      strand = .lookingUp user ∧ spot = .account := by
  have operations (batch : Batch) (operation : Operation) :
      (if operation ∈ batch.underWay then some (Inquiry.transport operation.call) else none).bind
        Inquiry.user? = none := by
    split <;> rfl
  cases strand with
  | lookingUp other => cases spot <;> simp [inquiry?, Inquiry.user?]
  | running run failure =>
      refine iff_of_false ?_ (by simp)
      obtain ⟨ticket, work, pass⟩ := run
      cases pass <;> cases spot <;>
        simp [inquiry?, Pass.inquiry?, operations, Option.bind_map, Function.comp_def,
          Inquiry.user?]
  | assigning other assignment limited =>
      refine iff_of_false ?_ (by simp)
      cases assignment <;> cases spot <;>
        simp [inquiry?, Assignment.inquiry?, operations, Option.bind_map, Function.comp_def,
          Inquiry.user?]
  | leaving batch expired =>
      refine iff_of_false ?_ (by simp)
      cases spot <;> simp [inquiry?, operations]
  | routing notice => cases spot <;> simp [inquiry?, Inquiry.user?]
  | circulating circular =>
      refine iff_of_false ?_ (by simp)
      cases spot with
      | copy connection =>
          simp only [inquiry?]
          split <;> simp [Inquiry.user?]
      | _ => simp [inquiry?]
  | _ => simp [inquiry?]

/-- An event, and the system at the moment at which it happens. -/
structure Moment where
  /-- The system before the event. -/
  system : System
  /-- The event. -/
  event : Event

/-- Something that happens to one membership. -/
inductive Touch where
  /-- A strand attempts an operation; if it is a run, it runs for this user. -/
  | attempted (strand : Nat) (runner? : Option UserKey) (attempt : Attempt)
  /-- The transport closes the connection. -/
  | closed
  deriving DecidableEq

namespace Touch

/-- Whether an operation failed. -/
def fails : Touch → Bool
  | attempted _ _ attempt => attempt.delivery ≠ .ok ()
  | closed => false

/-- Whether a run for this user carried an operation out. -/
def servesUser (user : UserKey) : Touch → Bool
  | attempted _ runner? attempt => runner? = some user ∧ attempt.delivery = .ok ()
  | closed => false

/-- Whether a strand attempted to join. -/
def joinsBy (position : Nat) : Touch → Bool
  | attempted strand _ attempt => strand = position ∧ attempt.operation.isJoin
  | closed => false

/-- Whether an attempt to join was made. -/
def joins : Touch → Bool
  | attempted _ _ attempt => attempt.operation.isJoin
  | closed => false

end Touch

namespace Moment

/-- The system after the event. -/
def next (moment : Moment) : System := moment.system.step moment.event

/-- What a strand attempts at the moment, if anything. -/
def attempt? (moment : Moment) : Option (Nat × Option UserKey × Attempt) :=
  match moment.event with
  | .perform position spot passage =>
    (moment.system.strands[position]?).bind fun strand =>
      (moment.system.board.attempt? passage spot (strand.inquiry? spot)).map fun attempt =>
        (position, strand.runner?, attempt)
  | _ => none

/-- The user about whom the account store answers at the moment. -/
def lookedUp? (moment : Moment) : Option UserKey :=
  match moment.event with
  | .perform position spot _ =>
    (moment.system.strands[position]?).bind fun strand =>
      (strand.inquiry? spot).bind Inquiry.user?
  | _ => none

/-- What happens to a membership at the moment, if anything. -/
def touch? (connection : Connection) (channel : Channel) (moment : Moment) : Option Touch :=
  match moment.event with
  | .close other => if other = connection then some .closed else none
  | _ =>
    match moment.attempt? with
    | some (strand, runner?, attempt) =>
      if attempt.operation.pair = (connection, channel) then
        some (.attempted strand runner? attempt)
      else none
    | none => none

end Moment

/-- The last thing that happened to a membership in a history. -/
def lastTouch? (moments : List Moment) (connection : Connection) (channel : Channel) :
    Option Touch :=
  (moments.filterMap (Moment.touch? connection channel)).getLast?

/-- The last thing that happened to a membership has some quality. -/
def LastTouch (quality : Touch → Bool) (moments : List Moment) (connection : Connection)
    (channel : Channel) : Prop :=
  ∃ touch, lastTouch? moments connection channel = some touch ∧ quality touch = true

namespace System

/-- The moments of a run. -/
def moments : System → List Event → List Moment
  | _, [] => []
  | system, event :: rest => ⟨system, event⟩ :: (system.step event).moments rest

theorem moments_append (system : System) (before after : List Event) :
    system.moments (before ++ after) =
      system.moments before ++ (system.run before).moments after := by
  induction before generalizing system with
  | nil => rfl
  | cons event rest induction => simp [moments, induction]

theorem moments_concat (system : System) (events : List Event) (event : Event) :
    system.moments (events ++ [event]) =
      system.moments events ++ [⟨system.run events, event⟩] :=
  system.moments_append events [event]

/-- A moment is reached by a run of the events before its own. -/
theorem exists_of_mem_moments {system : System} {events : List Event} {moment : Moment}
    (member : moment ∈ system.moments events) :
    ∃ before after, events = before ++ moment.event :: after ∧
      moment.system = system.run before := by
  induction events generalizing system with
  | nil => cases member
  | cons event rest induction =>
      rcases List.mem_cons.1 member with rfl | later
      · exact ⟨[], rest, rfl, rfl⟩
      · obtain ⟨before, after, rfl, same⟩ := induction later
        exact ⟨event :: before, after, rfl, same⟩

theorem event_mem_of_moments {system : System} {events : List Event} {moment : Moment}
    (member : moment ∈ system.moments events) : moment.event ∈ events := by
  obtain ⟨before, after, rfl, -⟩ := exists_of_mem_moments member
  exact List.mem_append_right _ List.mem_cons_self

theorem run_concat (system : System) (events : List Event) (event : Event) :
    system.run (events ++ [event]) = (system.run events).step event :=
  system.run_append events [event]

theorem proceed_board (system : System) (position : Nat) (worker : Worker) :
    (system.proceed position worker).board = system.board := by
  unfold proceed
  split
  · split <;> rfl
  · rfl
  · split <;> rfl

/-- An event leaves directory and limits as they are.  Connections are registered when they are set up
or registered and nothing else, and they are removed when they are disconnected.  What the account
store knows changes when it is set. -/
theorem step_board (system : System) (event : Event) :
    (system.step event).board =
      { system.board with
        tabulated := (system.step event).board.tabulated
        slots := (system.step event).board.slots
        link := (system.step event).board.link
        accounts :=
          match event with
          | .setAccount user account => fun other =>
            if other = user then account else system.board.accounts other
          | _ => system.board.accounts
        presence :=
          match event with
          | .submit (.connect ⟨some user, _⟩ connection) =>
            system.board.presence.add user connection
          | .register user connection => system.board.presence.add user connection
          | .disconnect user connection => system.board.presence.remove user connection
          | _ => system.board.presence } := by
  cases event with
  | submit request =>
      simp only [step, submit]
      rw [Request.begin_board, Request.presence_begin]
      cases request with
      | connect principal connection =>
          obtain ⟨user, claims⟩ := principal
          cases user <;> rfl
      | _ => rfl
  | visit position => simp only [step]; split <;> rfl
  | perform position spot passage =>
      simp only [step]
      split
      · simp only [put]
        rw [Strand.perform_board]
      · rfl
  | expire position =>
      simp only [step]
      split
      · simp only [put]
        rw [Strand.expire_board]
      · rfl
  | abandon position kept =>
      simp only [step]
      split
      · simp only [put]
        split <;> simp only <;> rw [Strand.abandon_board]
      · rfl
  | resume =>
      simp only [step]
      split
      · rfl
      · simp only
        rw [Run.start_board]
  | proceed position =>
      simp only [step]
      split
      · rw [proceed_board]
      · rfl
  | _ => rfl

theorem step_directory (system : System) (event : Event) :
    (system.step event).board.directory = system.board.directory := by
  rw [step_board]

theorem step_presence (system : System) (event : Event) :
    (system.step event).board.presence =
      match event with
      | .submit (.connect ⟨some user, _⟩ connection) => system.board.presence.add user connection
      | .register user connection => system.board.presence.add user connection
      | .disconnect user connection => system.board.presence.remove user connection
      | _ => system.board.presence := by
  rw [step_board]

theorem contains_step {system : System} {event : Event} {user : UserKey} {connection : Connection}
    (registered : system.board.presence.contains user connection = true)
    (stays : event ≠ .disconnect user connection) :
    (system.step event).board.presence.contains user connection = true := by
  rw [step_presence]
  split
  · exact (Presence.contains_add _ _ _ _ _).2 (.inr registered)
  · exact (Presence.contains_add _ _ _ _ _).2 (.inr registered)
  · refine (Presence.contains_remove _ _ _ _ _).2 ⟨?_, registered⟩
    rintro ⟨rfl, rfl⟩
    exact stays rfl
  · exact registered

/-- What the account store knows stays as long as it is not set. -/
theorem step_accounts (system : System) {event : Event}
    (kept : ∀ user account, event ≠ .setAccount user account) :
    (system.step event).board.accounts = system.board.accounts := by
  rw [step_board]
  cases event with
  | setAccount user account => exact absurd rfl (kept user account)
  | _ => rfl

theorem run_directory (system : System) (events : List Event) :
    (system.run events).board.directory = system.board.directory := by
  induction events generalizing system with
  | nil => rfl
  | cons event rest induction => rw [run_cons, induction, step_directory]

end System

namespace Moment

variable {moment : Moment} {connection : Connection} {channel : Channel}

theorem directory_next (moment : Moment) :
    moment.next.board.directory = moment.system.board.directory :=
  moment.system.step_directory moment.event

theorem next_of_perform {position : Nat} {spot : Spot} {passage : Passage} {strand : Strand}
    (event : moment.event = .perform position spot passage)
    (found : moment.system.strands[position]? = some strand) :
    moment.next =
      moment.system.put position (strand.perform moment.system.board passage spot) := by
  simp only [next, event, System.step, found]

/-- The account store answers at the spot of a look-up, and nowhere else. -/
theorem lookedUp?_eq_some_iff {user : UserKey} :
    moment.lookedUp? = some user ↔ ∃ position passage,
      moment.event = .perform position .account passage ∧
        moment.system.strands[position]? = some (.lookingUp user) := by
  obtain ⟨system, event⟩ := moment
  cases event with
  | perform position spot passage =>
      rw [lookedUp?, Option.bind_eq_some_iff]
      simp only [Strand.user?_inquiry?_eq_some_iff, Event.perform.injEq]
      constructor
      · rintro ⟨strand, found, rfl, rfl⟩
        exact ⟨position, passage, ⟨rfl, rfl, rfl⟩, found⟩
      · rintro ⟨_, _, ⟨rfl, rfl, rfl⟩, found⟩
        exact ⟨_, found, rfl, rfl⟩
  | _ => simp [lookedUp?]

theorem lookedUp?_of_perform {position : Nat} {spot : Spot} {passage : Passage} {user : UserKey}
    (event : moment.event = .perform position spot passage) :
    moment.lookedUp? = some user ↔
      spot = .account ∧ moment.system.strands[position]? = some (.lookingUp user) := by
  rw [lookedUp?_eq_some_iff, event]
  constructor
  · rintro ⟨_, _, same, found⟩
    cases same
    exact ⟨rfl, found⟩
  · rintro ⟨rfl, found⟩
    exact ⟨position, passage, rfl, found⟩

theorem next_of_expire {position : Nat} {strand : Strand}
    (event : moment.event = .expire position)
    (found : moment.system.strands[position]? = some strand) :
    moment.next = moment.system.put position (strand.expire moment.system.board) := by
  simp only [next, event, System.step, found]

theorem next_of_visit {position : Nat} {user : UserKey} (event : moment.event = .visit position)
    (found : moment.system.strands[position]? = some (.queued user)) :
    moment.next = moment.system.put position
      (moment.system.board, Strand.visit moment.system.board user) := by
  simp only [next, event, System.step, found]

/-- To look at a user who is not waiting for it changes nothing. -/
theorem next_of_idle_visit {position : Nat} {strand : Strand}
    (event : moment.event = .visit position)
    (found : moment.system.strands[position]? = some strand)
    (known : ∀ user, strand ≠ .queued user) : moment.next = moment.system := by
  simp only [next, event, System.step, found]
  split
  · rename_i user waiting
    exact absurd (Option.some.inj waiting) (known user)
  · rfl

/-- A strand changes only by an answer at one of its spots, by being looked at, by running out of
time or by being given up. -/
theorem strand_next (moment : Moment) {position : Nat} {strand : Strand}
    (found : moment.system.strands[position]? = some strand) :
    ∃ after, moment.next.strands[position]? = some after ∧
      (after = strand ∨
        (∃ spot passage, moment.event = .perform position spot passage ∧
          after = (strand.perform moment.system.board passage spot).2) ∨
        (∃ user, strand = .queued user ∧ after = Strand.visit moment.system.board user) ∨
        after = (strand.expire moment.system.board).2 ∨
        ∃ kept, moment.event = .abandon position kept ∧
          after = (strand.abandon moment.system.board).2.1) := by
  obtain ⟨system, event⟩ := moment
  have inside : position < system.strands.length := (List.getElem?_eq_some_iff.1 found).1
  have append_eq (later : List Strand) : (system.strands ++ later)[position]? = some strand := by
    rw [List.getElem?_append_left inside]
    exact found
  have set_eq {other : Nat} {old : Strand} (old_eq : system.strands[other]? = some old)
      (after : Strand) :
      (other = position ∧ old = strand ∧ (system.strands.set other after)[position]? = some after) ∨
        (system.strands.set other after)[position]? = some strand := by
    by_cases here : other = position
    · subst here
      exact .inl ⟨rfl, Option.some.inj (old_eq.symm.trans found), List.getElem?_set_self inside⟩
    · exact .inr ((List.getElem?_set_ne here).trans found)
  cases event with
  | submit request => exact ⟨strand, append_eq _, .inl rfl⟩
  | perform other spot passage =>
      simp only [next, System.step]
      cases old_eq : system.strands[other]? with
      | none => exact ⟨strand, found, .inl rfl⟩
      | some old =>
          rcases set_eq old_eq (old.perform system.board passage spot).2 with
            ⟨rfl, rfl, after⟩ | same
          · exact ⟨_, after, .inr (.inl ⟨spot, passage, rfl, rfl⟩)⟩
          · exact ⟨strand, same, .inl rfl⟩
  | visit other =>
      simp only [next, System.step]
      split
      · rename_i user old_eq
        rcases set_eq old_eq (Strand.visit system.board user) with ⟨rfl, rfl, after⟩ | same
        · exact ⟨_, after, .inr (.inr (.inl ⟨user, rfl, rfl⟩))⟩
        · exact ⟨strand, same, .inl rfl⟩
      · exact ⟨strand, found, .inl rfl⟩
  | expire other =>
      simp only [next, System.step]
      cases old_eq : system.strands[other]? with
      | none => exact ⟨strand, found, .inl rfl⟩
      | some old =>
          rcases set_eq old_eq (old.expire system.board).2 with ⟨rfl, rfl, after⟩ | same
          · exact ⟨_, after, .inr (.inr (.inr (.inl rfl)))⟩
          · exact ⟨strand, same, .inl rfl⟩
  | abandon other kept =>
      simp only [next, System.step]
      cases old_eq : system.strands[other]? with
      | none => exact ⟨strand, found, .inl rfl⟩
      | some old =>
          rcases set_eq old_eq (old.abandon system.board).2.1 with ⟨rfl, rfl, after⟩ | same
          · refine ⟨_, ?_, .inr (.inr (.inr (.inr ⟨kept, rfl, rfl⟩)))⟩
            cases kept <;> exact after
          · refine ⟨strand, ?_, .inl rfl⟩
            cases kept <;> exact same
  | resume =>
      simp only [next, System.step]
      split
      · exact ⟨strand, found, .inl rfl⟩
      · exact ⟨strand, append_eq _, .inl rfl⟩
  | proceed worker =>
      simp only [next, System.step]
      split
      · simp only [System.proceed]
        split
        · split <;> exact ⟨strand, found, .inl rfl⟩
        · exact ⟨strand, append_eq _, .inl rfl⟩
        · split <;> exact ⟨strand, found, .inl rfl⟩
      · exact ⟨strand, found, .inl rfl⟩
  | _ => exact ⟨strand, found, .inl rfl⟩

/-- A strand that is over stays as it is. -/
theorem strand_next_of_isOver {position : Nat} {strand : Strand}
    (found : moment.system.strands[position]? = some strand) (finished : strand.isOver = true) :
    moment.next.strands[position]? = some strand := by
  obtain ⟨after, present, change⟩ := moment.strand_next found
  rcases change with rfl | ⟨spot, passage, -, rfl⟩ | ⟨user, rfl, rfl⟩ | rfl | ⟨-, -, rfl⟩
  · exact present
  · rwa [Strand.perform_of_isOver finished] at present
  · cases finished
  · rwa [Strand.expire_of_isOver finished] at present
  · cases strand <;> first | exact present | cases finished

end Moment

/-- A strand that is over is the same ever after. -/
theorem System.strand_run_of_isOver {system : System} {position : Nat} {strand : Strand}
    (found : system.strands[position]? = some strand) (finished : strand.isOver = true)
    (events : List Event) : (system.run events).strands[position]? = some strand := by
  induction events generalizing system with
  | nil => exact found
  | cons event rest induction =>
      exact induction (@Moment.strand_next_of_isOver ⟨system, event⟩ _ _ found finished)

namespace Moment

variable {moment : Moment} {connection : Connection} {channel : Channel}

/-- What an answer at a spot of a strand does to a membership. -/
theorem touch?_eq_some_of_perform {position : Nat} {spot : Spot} {passage : Passage}
    {strand : Strand} {touch : Touch} (event : moment.event = .perform position spot passage)
    (found : moment.system.strands[position]? = some strand)
    (touched : moment.touch? connection channel = some touch) :
    ∃ attempt,
      moment.system.board.attempt? passage spot (strand.inquiry? spot) = some attempt ∧
        attempt.operation.pair = (connection, channel) ∧
          touch = .attempted position strand.runner? attempt := by
  cases attempted : moment.system.board.attempt? passage spot (strand.inquiry? spot) with
  | none => simp [touch?, attempt?, event, found, attempted] at touched
  | some attempt =>
      simp only [touch?, attempt?, event, found, attempted, Option.bind_some,
        Option.map_some] at touched
      split at touched
      · rename_i same
        cases touched
        exact ⟨attempt, rfl, same, rfl⟩
      · cases touched

/-- An attempt is made when an answer at a spot of its strand comes about. -/
theorem perform_of_touch? {position : Nat} {runner? : Option UserKey} {attempt : Attempt}
    (touched : moment.touch? connection channel = some (.attempted position runner? attempt)) :
    ∃ spot passage strand, moment.event = .perform position spot passage ∧
      moment.system.strands[position]? = some strand ∧
        moment.system.board.attempt? passage spot (strand.inquiry? spot) = some attempt ∧
          attempt.operation.pair = (connection, channel) := by
  obtain ⟨system, event⟩ := moment
  cases event with
  | perform other spot passage =>
      cases found : system.strands[other]? with
      | none => simp [touch?, attempt?, found] at touched
      | some strand =>
          obtain ⟨attempt', attempted, same, equal⟩ := touch?_eq_some_of_perform rfl found touched
          cases equal
          exact ⟨spot, passage, strand, rfl, found, attempted, same⟩
  | close other =>
      simp only [touch?] at touched
      split at touched <;> cases touched
  | _ => simp [touch?, attempt?] at touched

/-- While the transport closes nothing, only attempts touch memberships. -/
theorem attempted_of_touch? {touch : Touch}
    (touched : moment.touch? connection channel = some touch)
    (stays : ∀ other, moment.event ≠ .close other) :
    ∃ found, moment.attempt? = some found ∧
      found.2.2.operation.pair = (connection, channel) ∧
        touch = .attempted found.1 found.2.1 found.2.2 := by
  have attempts : (match moment.attempt? with
      | some (strand, runner?, attempt) =>
        if attempt.operation.pair = (connection, channel) then
          some (Touch.attempted strand runner? attempt)
        else none
      | none => none) = some touch := by
    obtain ⟨system, event⟩ := moment
    cases event with
    | close other => exact absurd rfl (stays other)
    | _ => exact touched
  cases attempted : moment.attempt? with
  | none =>
      rw [attempted] at attempts
      cases attempts
  | some found =>
      simp only [attempted] at attempts
      split at attempts
      · rename_i same
        exact ⟨found, rfl, same, (Option.some.inj attempts).symm⟩
      · cases attempts

/-- An attempt leaves the memberships as its operation makes them. -/
theorem groups_next_of_perform {position : Nat} {spot : Spot} {passage : Passage}
    (event : moment.event = .perform position spot passage) :
    moment.next.board.groups =
      moment.system.board.groups.afterAttempt (moment.attempt?.map fun found => found.2.2) := by
  simp only [next, event, System.step, attempt?]
  cases moment.system.strands[position]? with
  | none => rfl
  | some strand =>
      have performed := strand.groups_perform moment.system.board passage spot
      simp only [System.put, Option.bind_some, Option.map_map, Function.comp_def, Option.map_id']
      exact performed

private theorem groups_next_of_attempt?_eq_none (nothing : moment.attempt? = none)
    (open' : ∀ connection, moment.event ≠ .close connection) :
    moment.next.board.groups = moment.system.board.groups := by
  obtain ⟨system, event⟩ := moment
  cases event with
  | perform position spot passage =>
      rw [groups_next_of_perform rfl, nothing]
      rfl
  | close connection => exact absurd rfl (open' connection)
  | submit request =>
      simp only [next, System.step, System.submit]
      rw [Request.begin_board]
  | visit position => simp only [next, System.step]; split <;> rfl
  | expire position =>
      simp only [next, System.step]
      split
      · simp only [System.put]
        rw [Strand.expire_board]
      · rfl
  | abandon position kept =>
      simp only [next, System.step]
      split
      · simp only [System.put]
        split <;> simp only <;> rw [Strand.abandon_board]
      · rfl
  | resume =>
      simp only [next, System.step]
      split
      · rfl
      · simp only
        rw [Run.start_board]
  | proceed position =>
      simp only [next, System.step]
      split
      · rw [System.proceed_board]
      · rfl
  | _ => rfl

/-- What is not touched stays as it is. -/
theorem isMember_next_of_touch?_eq_none (untouched : moment.touch? connection channel = none) :
    moment.next.board.groups.isMember channel connection =
      moment.system.board.groups.isMember channel connection := by
  cases attempted : moment.attempt? with
  | some found =>
      obtain ⟨strand, runner?, attempt⟩ := found
      cases event : moment.event with
      | perform position spot passage =>
          rw [groups_next_of_perform event, attempted]
          apply Groups.isMember_afterAttempt_of_ne
          intro other member same
          cases member
          simp [touch?, event, attempted, same] at untouched
      | _ => simp [attempt?, event] at attempted
  | none =>
      cases event : moment.event with
      | close other =>
          have apart : other ≠ connection := by simpa [touch?, event] using untouched
          have expelled : moment.next.board.groups = moment.system.board.groups.expel other := by
            simp only [next, event]
            rfl
          rw [expelled, Bool.eq_iff_iff, Groups.isMember_expel]
          simp [apart.symm]
      | _ =>
          have same := groups_next_of_attempt?_eq_none attempted (by simp [event])
          rw [same]

/-- An operation that is carried out has its effect. -/
theorem isMember_next_of_delivered {strand : Nat} {runner? : Option UserKey} {attempt : Attempt}
    (touched : moment.touch? connection channel = some (.attempted strand runner? attempt))
    (delivered : attempt.delivery = .ok ()) :
    moment.next.board.groups.isMember channel connection = attempt.operation.isJoin := by
  cases event : moment.event with
  | perform position spot passage =>
      rw [groups_next_of_perform event]
      simp only [touch?, event] at touched
      split at touched
      · rename_i other _ found attempted
        split at touched
        · rename_i same
          cases touched
          rw [attempted]
          obtain ⟨operation, delivery⟩ := attempt
          simp only at delivered same
          subst delivered
          obtain ⟨rfl, rfl⟩ := Prod.mk.injEq .. ▸ same
          exact Groups.isMember_after_self _ operation
        · cases touched
      · cases touched
  | close other =>
      simp only [touch?, event] at touched
      split at touched <;> cases touched
  | _ => simp [touch?, event, attempt?] at touched

theorem event_of_closed (touched : moment.touch? connection channel = some .closed) :
    moment.event = .close connection := by
  cases event : moment.event with
  | close other =>
      simp only [touch?, event] at touched
      split at touched
      · rename_i same
        rw [same]
      · cases touched
  | _ =>
      obtain ⟨_, -, -, same⟩ := attempted_of_touch? touched (by simp [event])
      cases same

/-- A touch that does not fail has its effect. -/
theorem isMember_next_of_touch? {touch : Touch}
    (touched : moment.touch? connection channel = some touch)
    (carried : touch.fails = false) :
    moment.next.board.groups.isMember channel connection = touch.joins := by
  cases touch with
  | attempted strand runner? attempt =>
      exact isMember_next_of_delivered touched (by simpa [Touch.fails] using carried)
  | closed =>
      have expelled : moment.next.board.groups = moment.system.board.groups.expel connection := by
        simp only [next, event_of_closed touched]
        rfl
      rw [expelled, Bool.eq_iff_iff, Groups.isMember_expel]
      simp [Touch.joins]

end Moment

section LastTouch

variable {moments : List Moment} {moment : Moment} {connection : Connection} {channel : Channel}
  {quality : Touch → Bool}

theorem lastTouch?_concat :
    lastTouch? (moments ++ [moment]) connection channel =
      (moment.touch? connection channel).or (lastTouch? moments connection channel) := by
  simp only [lastTouch?, List.filterMap_append, List.getLast?_append]
  cases touched : moment.touch? connection channel <;> simp [touched]

theorem lastTouch?_append (moments later : List Moment) (connection : Connection)
    (channel : Channel) :
    lastTouch? (moments ++ later) connection channel =
      (lastTouch? later connection channel).or (lastTouch? moments connection channel) := by
  simp [lastTouch?]

/-- The last touch is one of the touches. -/
theorem lastTouch?_mem {touch : Touch} (last : lastTouch? moments connection channel = some touch) :
    ∃ moment ∈ moments, moment.touch? connection channel = some touch :=
  List.mem_filterMap.1 (List.mem_of_getLast? last)

theorem lastTouch_concat_of_none (untouched : moment.touch? connection channel = none) :
    LastTouch quality (moments ++ [moment]) connection channel ↔
      LastTouch quality moments connection channel := by
  simp [LastTouch, lastTouch?_concat, untouched]

theorem lastTouch_concat_of_some {touch : Touch}
    (touched : moment.touch? connection channel = some touch) :
    LastTouch quality (moments ++ [moment]) connection channel ↔ quality touch = true := by
  simp [LastTouch, lastTouch?_concat, touched]

/-- A touch that is an excuse keeps excuses, and a membership that changes has one. -/
theorem lastTouch_concat_of_foreign
    (foreign : ∀ touch, moment.touch? connection channel = some touch → quality touch = true) :
    (LastTouch quality moments connection channel →
        LastTouch quality (moments ++ [moment]) connection channel) ∧
      (LastTouch quality (moments ++ [moment]) connection channel ∨
        moment.next.board.groups.isMember channel connection =
          moment.system.board.groups.isMember channel connection) := by
  cases touched : moment.touch? connection channel with
  | none =>
      rw [lastTouch_concat_of_none touched]
      exact ⟨id, .inr (Moment.isMember_next_of_touch?_eq_none touched)⟩
  | some touch =>
      rw [lastTouch_concat_of_some touched]
      exact ⟨fun _ => foreign touch touched, .inl (foreign touch touched)⟩

/-- An answer at a spot of a strand keeps the excuses that do not concern it. -/
theorem excuses_concat {position : Nat} {spot : Spot} {passage : Passage} {strand : Strand}
    (event : moment.event = .perform position spot passage)
    (found : moment.system.strands[position]? = some strand)
    (blames : ∀ attempt, attempt.delivery ≠ .ok () →
      quality (.attempted position strand.runner? attempt) = true) :
    Excuses (moment.system.board.attempt? passage spot (strand.inquiry? spot))
      (LastTouch quality moments) (LastTouch quality (moments ++ [moment])) where
  kept := by
    intro connection channel other excuse
    refine (lastTouch_concat_of_none ?_).2 excuse
    cases attempted : moment.system.board.attempt? passage spot (strand.inquiry? spot) with
    | none => simp [Moment.touch?, Moment.attempt?, event, found, attempted]
    | some attempt =>
        simp [Moment.touch?, Moment.attempt?, event, found, attempted, other attempt attempted]
  blamed := by
    intro attempt attempted
    have touched : moment.touch? attempt.operation.connection attempt.operation.channel =
        some (.attempted position strand.runner? attempt) := by
      rw [Option.mem_def] at attempted
      simp [Moment.touch?, Moment.attempt?, event, found, attempted, Operation.pair]
    by_cases delivered : attempt.delivery = .ok ()
    · exact .inl delivered
    · exact .inr ((lastTouch_concat_of_some touched).2 (blames attempt delivered))

/-- A membership whose last touch did not fail is as that touch made it. -/
theorem System.isMember_run_of_lastTouch? (system : System) (events : List Event) {touch : Touch}
    (last : lastTouch? (system.moments events) connection channel = some touch)
    (carried : touch.fails = false) :
    (system.run events).board.groups.isMember channel connection = touch.joins := by
  induction events using List.reverseRecOn with
  | nil => cases last
  | append_singleton events event induction =>
      rw [System.moments_concat, lastTouch?_concat] at last
      rw [System.run_concat]
      cases touched : Moment.touch? connection channel ⟨system.run events, event⟩ with
      | some now =>
          rw [touched] at last
          cases last
          exact Moment.isMember_next_of_touch? touched carried
      | none =>
          rw [touched] at last
          exact (Moment.isMember_next_of_touch?_eq_none touched).trans (induction last)

/-- A membership whose last touch carried an operation out is as the operation made it. -/
theorem System.isMember_run_of_lastTouch (system : System) (events : List Event) {strand : Nat}
    {runner? : Option UserKey} {attempt : Attempt}
    (last : lastTouch? (system.moments events) connection channel =
      some (.attempted strand runner? attempt))
    (delivered : attempt.delivery = .ok ()) :
    (system.run events).board.groups.isMember channel connection =
      attempt.operation.isJoin :=
  system.isMember_run_of_lastTouch? events last (by simp [Touch.fails, delivered])

end LastTouch
end ChannelMembership
