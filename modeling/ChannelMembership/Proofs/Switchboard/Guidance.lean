import ChannelMembership.Proofs.Switchboard.Attendance

/-!
# Where a strand leads

Suppose that no call to the transport fails.  Then what a strand makes of the memberships of one
connection of its user can be told from the beginning: a run grants what its work grants and leaves
the channels that nobody governs as they were, an assignment adds what its principal is granted.
The strand leads to these memberships until it is over, and then they are reached.
-/

namespace ChannelMembership

/-- Every attempt is carried out. -/
def Delivered (attempt? : Option Attempt) : Prop := ∀ attempt ∈ attempt?, attempt.delivery = .ok ()

/-- Without failures no new excuse is needed. -/
theorem Delivered.excuses {attempt? : Option Attempt} (delivered : Delivered attempt?)
    (excused : Connection → Channel → Prop) : Excuses attempt? excused excused :=
  ⟨fun _ _ _ excuse => excuse, fun attempt member => .inl (delivered attempt member)⟩

/-- A membership on which everything attempted agrees with what it is stays so. -/
theorem Groups.isMember_afterAttempt_eq (groups : Groups) {attempt? : Option Attempt}
    (delivered : Delivered attempt?) {connection : Connection} {channel : Channel} {value : Bool}
    (before : groups.isMember channel connection = value)
    (agrees : ∀ attempt ∈ attempt?, attempt.operation.pair = (connection, channel) →
      attempt.operation.isJoin = value) :
    (groups.afterAttempt attempt?).isMember channel connection = value := by
  cases attempt? with
  | none => exact before
  | some attempt =>
      by_cases same : attempt.operation.pair = (connection, channel)
      · have carried := groups.isMember_after_self attempt.operation
        obtain ⟨rfl, rfl⟩ := Prod.mk.inj same
        rw [Groups.afterAttempt, delivered attempt rfl, carried]
        exact agrees attempt rfl rfl
      · exact (groups.isMember_after_of_ne _ (Ne.symm same)).trans before

/-- The memberships that work leaves behind: it decides about every channel that is governed. -/
def Work.result (directory : Directory) (work : Work) (former : Channel → Bool)
    (channel : Channel) : Bool :=
  if directory.governs channel = true then work.grants directory channel else former channel

/-- The memberships after the channels granted to a principal have been joined. -/
def Directory.joined (directory : Directory) (principal : Principal) (former : Channel → Bool)
    (channel : Channel) : Bool :=
  former channel || (directory.governs channel && directory.grants principal channel)

namespace Switchboard

/-- The memberships of one connection. -/
def memberships (board : Switchboard) (connection : Connection) (channel : Channel) : Bool :=
  board.groups.isMember channel connection

/-- The memberships of a connection of a user once the account store has been asked about them. -/
def refreshed (board : Switchboard) (user : UserKey) (connection : Connection) :
    Channel → Bool :=
  if board.presence.contains user connection = true then
    ((board.accounts user).demand user).1.result board.directory (board.memberships connection)
  else board.memberships connection

/-- Nothing is decided about a connection of a user who is offline. -/
theorem refreshed_of_offline (board : Switchboard) {user : UserKey}
    (offline : board.presence.isOnline user = false) (connection : Connection) :
    board.refreshed user connection = board.memberships connection := by
  refine if_neg fun registered => ?_
  have online := (Presence.isOnline_iff _ _).2 ⟨connection, registered⟩
  rw [offline] at online
  cases online

end Switchboard

namespace Strand

/-- A strand leads a connection of its user to some memberships. -/
inductive Leads (board : Switchboard) (user : UserKey) (connection : Connection)
    (target : Channel → Bool) : Strand → Prop
  /-- The user waits to be looked at, or the account store is asked about them. -/
  | waiting {strand : Strand} (waits : strand = queued user ∨ strand = lookingUp user)
    (due : target = board.refreshed user connection) :
    Leads board user connection target strand
  /-- A run decides about the governed channels if the connection is registered. -/
  | running {run : Run} {failure : Option LookupError} {work : Work}
    (stands : (RunState.active run).Stands board (fun other _ => other ≠ connection) user work
      (board.presence.connections user) none)
    (aim : ∀ channel, board.presence.contains user connection = true →
      board.directory.governs channel = true → work.grants board.directory channel = target channel)
    (kept : ∀ channel, (board.presence.contains user connection = true →
      board.directory.governs channel = false) →
        board.memberships connection channel = target channel) :
    Leads board user connection target (running run failure)
  /-- The connection joins its channels. -/
  | joining {assignment : Assignment} {principal : Principal} {former : Channel → Bool}
    (serves : assignment.Serves board.directory board.groups
      (fun _ channel => former channel = true) user principal connection)
    (aim : target = board.directory.joined principal former)
    (kept : ∀ channel, former channel = true ∨ board.directory.governs channel = false →
      board.memberships connection channel = target channel) :
    Leads board user connection target (assigning user assignment true)
  /-- Another connection joins its channels. -/
  | elsewhere {assignment : Assignment} {principal : Principal} {other : Connection}
    (apart : other ≠ connection)
    (serves : assignment.Serves board.directory board.groups (fun _ _ => True) user principal other)
    (reached : board.memberships connection = target) :
    Leads board user connection target (assigning user assignment true)
  /-- Nothing is left to do. -/
  | done {strand : Strand} (finished : strand.isOver = true)
    (reached : board.memberships connection = target) :
    Leads board user connection target strand

variable {board board' : Switchboard} {user : UserKey} {connection : Connection}
  {target : Channel → Bool} {strand : Strand}

/-- A strand that is over has led to where it was to lead. -/
theorem Leads.reached (leads : strand.Leads board user connection target)
    (finished : strand.isOver = true) : board.memberships connection = target := by
  cases leads with
  | done _ reached => exact reached
  | waiting waits due => rcases waits with rfl | rfl <;> cases finished
  | _ => cases finished

theorem Leads.subject? (leads : strand.Leads board user connection target) :
    strand.subject? = some user ∨ strand.isOver = true := by
  cases leads with
  | waiting waits due => rcases waits with rfl | rfl <;> exact .inl rfl
  | running stands aim kept =>
      cases stands
      exact .inl rfl
  | joining serves aim kept => exact .inl rfl
  | elsewhere apart serves reached => exact .inl rfl
  | done finished reached => exact .inr finished

/-- What happens elsewhere does not matter, as long as the memberships of the connection stay. -/
theorem Leads.mono (leads : strand.Leads board user connection target)
    (directory : board'.directory = board.directory)
    (presence : board'.presence = board.presence)
    (accounts : board'.accounts = board.accounts)
    (slot : board'.slots.slot user = board.slots.slot user)
    (memberships : board'.memberships connection = board.memberships connection) :
    strand.Leads board' user connection target := by
  have frame (channel : Channel) : board'.groups.isMember channel connection =
      board.groups.isMember channel connection := congrFun memberships channel
  cases leads with
  | waiting waits due =>
      refine .waiting waits ?_
      rw [due, Switchboard.refreshed, Switchboard.refreshed, directory, presence, accounts,
        memberships]
  | @running run failure work stands aim kept =>
      have stands' := stands.mono directory slot (fun _ _ _ excuse => excuse)
        fun other _ channel => by
          by_cases here : other = connection
          · exact .inr (here ▸ frame channel)
          · exact .inl here
      rw [← presence] at stands'
      refine .running stands' ?_ ?_
      · rwa [directory, presence]
      · rwa [directory, presence, memberships]
  | @joining assignment principal former serves aim kept =>
      have serves' : assignment.Serves board.directory board'.groups
          (fun _ channel => former channel = true) user principal connection :=
        serves.mono (fun _ excuse => excuse) fun channel => .inr (frame channel)
      rw [← directory] at serves' aim kept
      refine .joining serves' aim ?_
      rwa [memberships]
  | @elsewhere assignment principal other apart serves reached =>
      have serves' : assignment.Serves board.directory board'.groups (fun _ _ => True) user
          principal other :=
        serves.mono (fun _ excuse => excuse) fun _ => .inl trivial
      rw [← directory] at serves'
      exact .elsewhere apart serves' (memberships.trans reached)
  | done finished reached => exact .done finished (memberships.trans reached)

/-- A run that is over has decided about the governed channels. -/
theorem leads_ofRunState {state : RunState} {work : Work} (failure : Option LookupError)
    (stands : state.Stands board (fun other _ => other ≠ connection) user work
      (board.presence.connections user) none)
    (aim : ∀ channel, board.presence.contains user connection = true →
      board.directory.governs channel = true → work.grants board.directory channel = target channel)
    (kept : ∀ channel, (board.presence.contains user connection = true →
      board.directory.governs channel = false) →
        board.memberships connection channel = target channel) :
    (ofRunState failure state).Leads board user connection target := by
  cases state with
  | active run => exact .running stands aim kept
  | «over» outcome =>
      refine .done (ofRunState_over failure outcome) (funext fun channel => ?_)
      cases stands with
      | concluded idle closes settled =>
          by_cases decided : board.presence.contains user connection = true ∧
              board.directory.governs channel = true
          · obtain ⟨registered, governed⟩ := decided
            have found := (Presence.mem_connections _ _ _).2 registered
            have agrees := (settled connection found channel governed).resolve_left fun h => h rfl
            exact agrees.trans (aim channel registered governed)
          · exact kept channel fun registered =>
              Bool.eq_false_iff.2 fun governed => decided ⟨registered, governed⟩

theorem leads_ofAssignment {assignment : Assignment} {principal : Principal}
    {former : Channel → Bool}
    (serves : assignment.Serves board.directory board.groups
      (fun _ channel => former channel = true) user principal connection)
    (aim : target = board.directory.joined principal former)
    (kept : ∀ channel, former channel = true ∨ board.directory.governs channel = false →
      board.memberships connection channel = target channel) :
    (ofAssignment user assignment true).Leads board user connection target := by
  unfold ofAssignment
  cases done : assignment.report? with
  | none => exact .joining serves aim kept
  | some report =>
      refine .done rfl (funext fun channel => ?_)
      obtain ⟨-, settled⟩ := serves.closes done
      by_cases stays : former channel = true ∨ board.directory.governs channel = false
      · exact kept channel stays
      · obtain ⟨absent, governed⟩ := not_or.1 stays
        rw [Bool.not_eq_false] at governed
        have agrees := (settled connection List.mem_cons_self channel governed).resolve_left absent
        rw [aim, Directory.joined, Bool.eq_false_iff.2 absent, governed]
        exact agrees

theorem leads_ofAssignment_of_ne {assignment : Assignment} {principal : Principal}
    {other : Connection} (apart : other ≠ connection)
    (serves : assignment.Serves board.directory board.groups (fun _ _ => True) user principal other)
    (reached : board.memberships connection = target) :
    (ofAssignment user assignment true).Leads board user connection target := by
  unfold ofAssignment
  cases assignment.report? with
  | none => exact .elsewhere apart serves reached
  | some report => exact .done rfl reached

theorem leads_visit (due : target = board.refreshed user connection) :
    (visit board user).Leads board user connection target := by
  unfold visit
  cases online : board.presence.isOnline user with
  | true => exact .waiting (.inr rfl) due
  | false => exact .done rfl (due.trans (board.refreshed_of_offline online connection)).symm

/-- A run that begins decides as the account store demands. -/
theorem leads_resolve (idle : board.slots.slot user = .idle)
    (due : target = board.refreshed user connection) :
    (resolve board user).2.Leads (resolve board user).1 user connection target := by
  rw [resolve_eq, submit_eq]
  cases online : board.presence.isOnline user with
  | false =>
      simp only [Switchboard.submit, online, Bool.false_eq_true, if_false]
      exact .done (ofRunState_over _ _)
        (due.trans (board.refreshed_of_offline online connection)).symm
  | true =>
      generalize demanded : ((board.accounts user).demand user).1 = work
      have started := Run.start_board board user work
      have presence : (Run.start board user work).1.presence = board.presence := by rw [started]
      have directory : (Run.start board user work).1.directory = board.directory := by rw [started]
      have memberships : (Run.start board user work).1.memberships connection =
          board.memberships connection := by
        rw [started]
        rfl
      have stands := Run.stands_start (fun other _ => other ≠ connection) work idle
      rw [← presence] at stands
      simp only [Switchboard.submit, online, if_true]
      refine leads_ofRunState _ stands ?_ ?_
      · rw [presence, directory, due]
        intro channel registered governed
        simp [Switchboard.refreshed, Work.result, registered, governed, demanded]
      · rw [presence, directory, memberships, due]
        intro channel undecided
        by_cases registered : board.presence.contains user connection = true
        · simp [Switchboard.refreshed, Work.result, registered, undecided registered]
        · simp [Switchboard.refreshed, registered]

/-- Where nothing is attempted on a membership, it stays as it is. -/
theorem memberships_perform_of_ne (strand : Strand) {passage : Passage} {spot : Spot}
    {channel : Channel}
    (elsewhere : ∀ attempt ∈ board.attempt? passage spot (strand.inquiry? spot),
      attempt.operation.pair ≠ (connection, channel)) :
    (strand.perform board passage spot).1.memberships connection channel =
      board.memberships connection channel := by
  rw [Switchboard.memberships, groups_perform]
  exact board.groups.isMember_afterAttempt_of_ne elsewhere

/-- A strand leads to the same memberships when the answer at one of its spots comes about. -/
theorem Leads.perform (leads : strand.Leads board user connection target) {passage : Passage}
    {spot : Spot} (idle : strand = .lookingUp user → board.slots.slot user = .idle)
    (delivered : Delivered (board.attempt? passage spot (strand.inquiry? spot))) :
    (strand.perform board passage spot).2.Leads (strand.perform board passage spot).1 user
      connection target := by
  have presence := presence_perform strand board passage spot
  have directory := directory_perform strand board passage spot
  cases leads with
  | waiting waits due =>
      rcases waits with rfl | rfl
      · exact .waiting (.inl rfl) due
      · cases spot with
        | account => exact leads_resolve (idle rfl) due
        | _ => exact .waiting (.inr rfl) due
  | done finished reached =>
      rw [perform_of_isOver finished]
      exact .done finished reached
  | @running run failure work stands aim kept =>
      cases stands with
      | @active _ pass held going serves =>
          have stands := Run.stands_perform held serves (delivered.excuses _)
            (Run.successor?_of_unparked held passage spot)
          have stay {channel : Channel}
              (undecided : board.presence.contains user connection = true →
                board.directory.governs channel = false) :
              ∀ attempt ∈ board.attempt? passage spot (pass.inquiry? spot),
                attempt.operation.pair ≠ (connection, channel) := by
            intro attempt attempted same
            obtain ⟨found, governed, -⟩ := (Work.mem_operations _ _).1 (serves.attempts attempted)
            obtain ⟨rfl, rfl⟩ := Prod.mk.inj same
            rw [undecided ((Presence.mem_connections _ _ _).1 found)] at governed
            cases governed
          have kept' (channel : Channel)
              (undecided : board.presence.contains user connection = true →
                board.directory.governs channel = false) :
              (Run.perform ⟨⟨user, true⟩, work, pass⟩ board passage spot).1.memberships connection
                channel = target channel :=
            (memberships_perform_of_ne (.running ⟨⟨user, true⟩, work, pass⟩ failure)
              (stay undecided)).trans (kept channel undecided)
          rw [← presence] at stands aim kept'
          rw [← directory] at aim kept'
          exact leads_ofRunState failure stands aim kept'
  | @joining assignment principal former serves aim kept =>
      have serves' := serves.perform (delivered.excuses _)
      have kept' (channel : Channel)
          (stays : former channel = true ∨ board.directory.governs channel = false) :
          (assignment.perform board passage spot).1.memberships connection channel =
            target channel := by
        rw [Switchboard.memberships, Assignment.groups_perform]
        refine board.groups.isMember_afterAttempt_eq delivered (kept channel stays) ?_
        intro attempt attempted same
        obtain ⟨-, joins, governed, granted⟩ :=
          (Directory.mem_joins _).1 (serves.attempts attempted)
        obtain ⟨rfl, rfl⟩ := Prod.mk.inj same
        rw [joins, aim, Directory.joined, governed, granted]
        simp
      rw [← directory] at serves' aim kept'
      exact leads_ofAssignment serves' aim kept'
  | @elsewhere assignment principal other apart serves reached =>
      have serves' := serves.perform
        (Excuses.everything (board.attempt? passage spot (assignment.inquiry? spot)))
      have reached' :
          (assignment.perform board passage spot).1.memberships connection = target := by
        refine Eq.trans (funext fun channel => ?_) reached
        refine memberships_perform_of_ne (.assigning user assignment true) ?_
        intro attempt attempted same
        obtain ⟨here, -⟩ := (Directory.mem_joins _).1 (serves.attempts attempted)
        exact apart (here.symm.trans (congrArg Prod.fst same))
      rw [← directory] at serves'
      exact leads_ofAssignment_of_ne apart serves' reached'

/-- A strand is on course with regard to one connection of a user: if it attends to that user, it
leads the connection to its memberships, and otherwise it attends to somebody else, whatever becomes
of their memberships. -/
inductive OnCourse (board : Switchboard) (user : UserKey) (connection : Connection)
    (target : Channel → Bool) : UserKey → Strand → Prop
  /-- The strand attends to the user. -/
  | own {strand : Strand} (leads : strand.Leads board user connection target) :
    OnCourse board user connection target user strand
  /-- The strand attends to somebody else. -/
  | foreign {other : UserKey} {strand : Strand} {current : Connection → Current}
    (apart : other ≠ user) (attends : strand.Attends board (fun _ _ => True) current other) :
    OnCourse board user connection target other strand

variable {subject : UserKey}

theorem OnCourse.subject? (course : strand.OnCourse board user connection target subject) :
    strand.subject? = some subject ∨ strand.isOver = true := by
  cases course with
  | own leads => exact leads.subject?
  | foreign apart attends => exact attends.subject?

/-- A strand of the user that is over has led the connection to its memberships. -/
theorem OnCourse.reached (course : strand.OnCourse board user connection target user)
    (finished : strand.isOver = true) : board.memberships connection = target := by
  cases course with
  | own leads => exact leads.reached finished
  | foreign apart attends => exact absurd rfl apart

/-- What happens elsewhere does not matter, as long as the memberships stay that the strand is to
lead somewhere. -/
theorem OnCourse.mono (course : strand.OnCourse board user connection target subject)
    (directory : board'.directory = board.directory)
    (presence : board'.presence = board.presence)
    (accounts : board'.accounts = board.accounts)
    (slot : board'.slots.slot subject = board.slots.slot subject)
    (memberships : subject = user →
      board'.memberships connection = board.memberships connection) :
    strand.OnCourse board' user connection target subject := by
  cases course with
  | own leads => exact .own (leads.mono directory presence accounts slot (memberships rfl))
  | foreign apart attends =>
      exact .foreign apart (attends.mono directory presence slot (fun _ _ => rfl)
        (fun _ _ _ excuse => excuse) (fun _ _ _ => .inl trivial))

theorem OnCourse.visit
    (course : (queued subject).OnCourse board user connection target subject) :
    (Strand.visit board subject).OnCourse board user connection target subject := by
  cases course with
  | own leads =>
      cases leads with
      | waiting waits due => exact .own (leads_visit due)
      | done finished reached => cases finished
  | foreign apart attends =>
      cases attends with
      | queued awaited => exact .foreign apart (attends_visit awaited)
      | done finished settled => cases finished

/-- A strand stays on course when the answer at one of its spots comes about. -/
theorem OnCourse.perform (course : strand.OnCourse board user connection target subject)
    {passage : Passage} {spot : Spot}
    (idle : strand = .lookingUp subject → board.slots.slot subject = .idle)
    (delivered : Delivered (board.attempt? passage spot (strand.inquiry? spot))) :
    (strand.perform board passage spot).2.OnCourse (strand.perform board passage spot).1 user
      connection target subject := by
  cases course with
  | own leads => exact .own (leads.perform idle delivered)
  | foreign apart attends =>
      by_cases looking : strand = .lookingUp subject ∧ spot = .account
      · obtain ⟨rfl, rfl⟩ := looking
        exact .foreign apart (attends_resolve _ (idle rfl) fun _ _ => rfl)
      · exact .foreign apart (attends.perform (fun known asked => looking ⟨known, asked⟩)
          (Excuses.everything _))

/-- A strand that attends to somebody else does not touch the connection. -/
theorem OnCourse.memberships_perform
    (course : strand.OnCourse board user connection target subject) (apart : subject ≠ user)
    (foreign : board.presence.contains subject connection = false) (passage : Passage)
    (spot : Spot) :
    (strand.perform board passage spot).1.memberships connection =
      board.memberships connection := by
  cases course with
  | own leads => exact absurd rfl apart
  | foreign _ attends =>
      refine funext fun channel => memberships_perform_of_ne strand fun attempt attempted same => ?_
      have registered := attends.attempts attempted
      rw [show attempt.operation.connection = connection from congrArg Prod.fst same, foreign]
        at registered
      cases registered

end Strand
end ChannelMembership
