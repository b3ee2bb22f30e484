import ChannelMembership.Proofs.Connecting
import ChannelMembership.Proofs.Switchboard.Completion
import ChannelMembership.Proofs.Switchboard.Dispatch

/-!
# The setup of a connection, end to end

A connection whose user is not known is refused, and nothing else happens.  Otherwise it is registered,
and its setup comes to one of two ends.  Either every join for the channels that its principal is
authorised for has been attempted.  Or time ran out, at any question or between any two joins: then no
further join is issued, the connection is asked to leave every known channel, and it stays a member at
most where that failed.
-/

namespace ChannelMembership

/-- Nobody but a strand touches the memberships of a connection. -/
def TouchedOnlyBy (position : Nat) (connection : Connection) (moments : List Moment) : Prop :=
  ∀ moment ∈ moments, ∀ channel touch, moment.touch? connection channel = some touch →
    ∃ runner? attempt, touch = .attempted position runner? attempt

theorem TouchedOnlyBy.of_append {position : Nat} {connection : Connection}
    {moments later : List Moment} (only : TouchedOnlyBy position connection (moments ++ later)) :
    TouchedOnlyBy position connection moments :=
  fun moment member => only moment (List.mem_append_left _ member)

/-- A strand is alone with a connection if only it attempts operations on it, and the transport closes no
connection. -/
theorem touchedOnlyBy_of_attempts {system : System} {position : Nat} {connection : Connection}
    {events : List Event} (stays : ∀ event ∈ events, ∀ other, event ≠ .close other)
    (mine : ∀ found ∈ (system.moments events).filterMap Moment.attempt?,
      found.2.2.operation.connection = connection → found.1 = position) :
    TouchedOnlyBy position connection (system.moments events) := by
  intro moment member channel touch touched
  obtain ⟨found, attempted, same, rfl⟩ :=
    Moment.attempted_of_touch? touched (stays _ (System.event_mem_of_moments member))
  have here := mine _ (List.mem_filterMap.2 ⟨moment, member, attempted⟩) (congrArg Prod.fst same)
  exact ⟨found.2.1, found.2.2, by rw [here]⟩

/-- Where the strand attempts nothing, the memberships stay as they are. -/
theorem TouchedOnlyBy.isMember_next {position : Nat} {connection : Connection}
    {moments : List Moment} (only : TouchedOnlyBy position connection moments) {moment : Moment}
    (member : moment ∈ moments) (unattempted : moment.attemptOf? position = none)
    (channel : Channel) :
    moment.next.board.groups.isMember channel connection =
      moment.system.board.groups.isMember channel connection := by
  apply Moment.isMember_next_of_touch?_eq_none
  cases touched : moment.touch? connection channel with
  | none => rfl
  | some touch =>
      obtain ⟨runner?, attempt, rfl⟩ := only moment member channel touch touched
      obtain ⟨spot, passage, strand, event, found, attempted, -⟩ :=
        Moment.perform_of_touch? touched
      rw [Moment.attemptOf?_of_perform event found, attempted] at unattempted
      cases unattempted

/-- What an operation does to a membership depends on that membership only. -/
theorem Groups.isMember_afterAttempt_congr {groups former : Groups} {connection : Connection}
    {channel : Channel}
    (same : groups.isMember channel connection = former.isMember channel connection)
    (attempt? : Option Attempt) :
    (groups.afterAttempt attempt?).isMember channel connection =
      (former.afterAttempt attempt?).isMember channel connection := by
  cases attempt? with
  | none => exact same
  | some attempt =>
      by_cases here : (connection, channel) = attempt.operation.pair
      · obtain ⟨operation, delivery⟩ := attempt
        obtain ⟨rfl, rfl⟩ : connection = operation.connection ∧ channel = operation.channel :=
          Prod.mk.injEq .. ▸ here
        cases delivery with
        | ok done =>
            exact (groups.isMember_after_self operation).trans
              (former.isMember_after_self operation).symm
        | error error => exact same
      · simp only [afterAttempt, isMember_after_of_ne _ _ here, same]

/-- How far the setup of a connection has come, with what it has issued and attempted.  If nobody else
touches the memberships of the connection, they are as the leaves attempted have made them. -/
inductive Strand.Handshakes (directory : Directory) (groups : Groups) (alone : Prop)
    (user : UserKey) (principal : Principal) (connection : Connection) :
    List Operation → List Attempt → Strand → Prop
  /-- The principal is being authorised. -/
  | deciding {evaluation : Evaluation} (faithful : evaluation.Faithful directory principal) :
    Handshakes directory groups alone user principal connection [] []
      (.assigning user (.deciding user connection evaluation) true)
  /-- The joins are being carried out. -/
  | joining {issued : List Operation} {attempts : List Attempt} {batch : Batch}
    (accounts : batch.Accounts (Report.start user 1) (directory.joins principal connection) issued
      attempts) :
    Handshakes directory groups alone user principal connection issued attempts
      (.assigning user (.joining connection batch) true)
  /-- All joins have been attempted. -/
  | connected {attempts : List Attempt}
    (all : (attempts.map Attempt.operation).Perm (directory.joins principal connection)) :
    Handshakes directory groups alone user principal connection
      (directory.joins principal connection) attempts
      (.ended (.connected ((Report.start user 1).tell attempts)))
  /-- Time ran out, and leaves are being carried out. -/
  | leaving {count : Nat} {issued : List Operation} {before attempts : List Attempt}
    {batch : Batch} {former : Groups}
    (joins : ∀ attempt ∈ before, attempt.operation.isJoin = true)
    (accounts : batch.Accounts (Report.start user 1) (Work.revoke.operations directory [connection])
      issued attempts)
    (settled : alone → ∀ channel, groups.isMember channel connection =
      (former.afterAll attempts).isMember channel connection) :
    Handshakes directory groups alone user principal connection
      ((directory.joins principal connection).take count ++ issued) (before ++ attempts)
      (.leaving batch true)
  /-- All leaves have been attempted. -/
  | failedClosed {count : Nat} {before attempts : List Attempt} {former : Groups}
    (joins : ∀ attempt ∈ before, attempt.operation.isJoin = true)
    (all : (attempts.map Attempt.operation).Perm (Work.revoke.operations directory [connection]))
    (settled : alone → ∀ channel, groups.isMember channel connection =
      (former.afterAll attempts).isMember channel connection) :
    Handshakes directory groups alone user principal connection
      ((directory.joins principal connection).take count ++
        Work.revoke.operations directory [connection])
      (before ++ attempts) (.ended (.failedClosed ((Report.start user 1).tell attempts)))
  /-- The setup was given up by whoever asked for it. -/
  | dropped {issued : List Operation} {attempts : List Attempt} :
    Handshakes directory groups alone user principal connection issued attempts .dropped

namespace Strand

variable {directory : Directory} {groups groups' former : Groups} {alone alone' : Prop}
  {user : UserKey} {principal : Principal} {connection : Connection} {issued : List Operation}
  {attempts before : List Attempt} {batch : Batch} {strand : Strand}

theorem handshakes_joining
    (accounts : batch.Accounts (Report.start user 1) (directory.joins principal connection) issued
      attempts) :
    (ofAssignment user (.joining connection batch) true).Handshakes directory groups alone user
      principal connection issued attempts := by
  cases done : batch.isDone with
  | false =>
      simp only [ofAssignment, Assignment.report?, done]
      exact .joining accounts
  | true =>
      obtain ⟨rfl, all⟩ := accounts.done done
      simp only [ofAssignment, Assignment.report?, done, if_true, accounts.told]
      exact .connected all

theorem handshakes_leaving {count : Nat} (former : Groups)
    (joins : ∀ attempt ∈ before, attempt.operation.isJoin = true)
    (accounts : batch.Accounts (Report.start user 1) (Work.revoke.operations directory [connection])
      issued attempts)
    (settled : alone → ∀ channel, groups.isMember channel connection =
      (former.afterAll attempts).isMember channel connection) :
    (ofLeaves batch true).Handshakes directory groups alone user principal connection
      ((directory.joins principal connection).take count ++ issued) (before ++ attempts) := by
  cases done : batch.isDone with
  | false =>
      simp only [ofLeaves, done]
      exact .leaving joins accounts settled
  | true =>
      obtain ⟨rfl, all⟩ := accounts.done done
      simp only [ofLeaves, done, if_true, accounts.told]
      exact .failedClosed joins all settled

/-- An assignment goes on to its joins once every channel is decided. -/
theorem handshakes_settle {board : Switchboard} {evaluation : Evaluation}
    (faithful : evaluation.Faithful board.directory principal) :
    (ofAssignment user (Assignment.settle board (.deciding user connection evaluation))
        true).Handshakes board.directory groups alone user principal connection
      (ofAssignment user (Assignment.settle board (.deciding user connection evaluation))
        true).underWay [] := by
  cases done : evaluation.isDone with
  | false =>
      simp only [Assignment.settle, done, Bool.false_eq_true, if_false, ofAssignment_deciding,
        underWay_deciding]
      exact .deciding faithful
  | true =>
      simp only [Assignment.settle, done, if_true, faithful.partition_eq done,
        underWay_ofAssignment_joining]
      exact handshakes_joining (Batch.accounts_start _ _ _)

/-- Whatever else happens to the groups must leave the memberships of the connection alone, unless
others are allowed to touch them. -/
theorem Handshakes.mono
    (handshakes : strand.Handshakes directory groups alone user principal connection issued
      attempts)
    (frame : alone' → alone ∧ ∀ channel, groups'.isMember channel connection =
      groups.isMember channel connection) :
    strand.Handshakes directory groups' alone' user principal connection issued attempts := by
  cases handshakes with
  | deciding faithful => exact .deciding faithful
  | joining accounts => exact .joining accounts
  | connected all => exact .connected all
  | leaving joins accounts settled =>
      exact .leaving joins accounts fun only channel =>
        ((frame only).2 channel).trans (settled (frame only).1 channel)
  | failedClosed joins all settled =>
      exact .failedClosed joins all fun only channel =>
        ((frame only).2 channel).trans (settled (frame only).1 channel)
  | dropped => exact .dropped

theorem Handshakes.ne_queued
    (handshakes : strand.Handshakes directory groups alone user principal connection issued
      attempts)
    (other : UserKey) : strand ≠ .queued other := by
  cases handshakes <;> nofun

/-- The setup ends in one of two ways. -/
theorem Handshakes.conclusion_eq {conclusion : Conclusion}
    (handshakes : (ended conclusion).Handshakes directory groups alone user principal connection
      issued attempts) :
    ∃ report, conclusion = .connected report ∨ conclusion = .failedClosed report := by
  cases handshakes with
  | connected all => exact ⟨_, .inl rfl⟩
  | failedClosed joins all settled => exact ⟨_, .inr rfl⟩

theorem Handshakes.of_connected {report : Report}
    (handshakes : (ended (.connected report)).Handshakes directory groups alone user principal
      connection issued attempts) :
    issued = directory.joins principal connection ∧
      (attempts.map Attempt.operation).Perm (directory.joins principal connection) ∧
        report = (Report.start user 1).tell attempts := by
  cases handshakes with
  | connected all => exact ⟨rfl, all, rfl⟩

theorem Handshakes.of_failedClosed {report : Report}
    (handshakes : (ended (.failedClosed report)).Handshakes directory groups alone user principal
      connection issued attempts) :
    ∃ count before attempts' former,
      issued = (directory.joins principal connection).take count ++
        Work.revoke.operations directory [connection] ∧
      attempts = before ++ attempts' ∧
      (∀ attempt ∈ before, attempt.operation.isJoin = true) ∧
      (attempts'.map Attempt.operation).Perm (Work.revoke.operations directory [connection]) ∧
      report = (Report.start user 1).tell attempts' ∧
      (alone → ∀ channel, groups.isMember channel connection =
        (Groups.afterAll former attempts').isMember channel connection) := by
  cases handshakes with
  | @failedClosed count before attempts former joins all settled =>
      exact ⟨count, before, attempts, former, rfl, rfl, joins, all, rfl, settled⟩

/-- Before time runs out, only joins are issued. -/
theorem isJoin_of_issued
    (accounts : batch.Accounts (Report.start user 1) (directory.joins principal connection) issued
      attempts)
    {operation : Operation} (member : operation ∈ issued) : operation.isJoin = true := by
  have listed : operation ∈ directory.joins principal connection := by
    rw [← accounts.order]
    exact List.mem_append_left _ member
  exact ((Directory.mem_joins _).1 listed).2.1

/-- When joins are given up, the leaves that are issued instead are different operations. -/
theorem handshakes_leaveAll {board : Switchboard} {underWay : List Operation} (count : Nat)
    (joins : ∀ attempt ∈ before, attempt.operation.isJoin = true)
    (moving : ∀ operation ∈ underWay, operation.isJoin = true) :
    (leaveAll board user connection true).2.Handshakes board.directory board.groups alone user
      principal connection
      ((board.directory.joins principal connection).take count ++
        issuedBetween underWay (leaveAll board user connection true).2.underWay none) before := by
  have started := Batch.accounts_start board.bound (Report.start user 1)
    (Work.revoke.operations board.directory [connection])
  have apart : ∀ operation ∈ underWay, operation ∉ (Batch.start board.bound (Report.start user 1)
      (Work.revoke.operations board.directory [connection])).underWay := by
    intro operation busy starts
    obtain ⟨-, -, leaves⟩ := (Work.mem_operations _ _).1 (List.mem_of_mem_take starts)
    rw [moving operation busy] at leaves
    cases leaves
  simp only [leaveAll, ← Work.operations_revoke_singleton, underWay_ofLeaves,
    issuedBetween_of_disjoint apart]
  rw [← List.append_nil before]
  exact handshakes_leaving board.groups joins started fun _ _ => rfl

/-- The setup goes on with the answer at a spot. -/
theorem Handshakes.perform {board : Switchboard}
    (handshakes : strand.Handshakes board.directory board.groups alone user principal connection
      issued attempts)
    (passage : Passage) (spot : Spot) :
    (strand.perform board passage spot).2.Handshakes board.directory
      (strand.perform board passage spot).1.groups alone user principal connection
      (issued ++ issuedBetween strand.underWay (strand.perform board passage spot).2.underWay
        (board.attempt? passage spot (strand.inquiry? spot)))
      (attempts ++ (board.attempt? passage spot (strand.inquiry? spot)).toList) := by
  cases handshakes with
  | @deciding evaluation faithful =>
      cases spot with
      | question channel =>
          simpa [Strand.perform, Assignment.perform, Switchboard.attempt?] using
            handshakes_settle (faithful.ask channel)
      | _ =>
          simpa [Strand.perform, Assignment.perform, Strand.inquiry?, Assignment.inquiry?] using
            Handshakes.deciding faithful
  | @joining issued attempts batch accounts =>
      cases spot with
      | operation operation =>
          rw [underWay_joining]
          simp only [Strand.perform, Assignment.perform, underWay_ofAssignment_joining]
          exact handshakes_joining (accounts.perform board passage operation)
      | _ =>
          simpa [Strand.perform, Assignment.perform, Strand.inquiry?, Assignment.inquiry?] using
            handshakes_joining accounts
  | connected all => simpa [Strand.perform, Strand.inquiry?] using Handshakes.connected all
  | @leaving count issued before attempts batch former joins accounts settled =>
      cases spot with
      | operation operation =>
          rw [List.append_assoc, List.append_assoc, underWay_leaving]
          simp only [Strand.perform, underWay_ofLeaves]
          refine handshakes_leaving former joins
            (accounts.perform board passage operation) fun only channel => ?_
          rw [Batch.groups_perform, Groups.afterAll_append_toList]
          exact Groups.isMember_afterAttempt_congr (settled only channel) _
      | _ =>
          simpa [Strand.perform, Strand.inquiry?] using
            Handshakes.leaving joins accounts settled
  | failedClosed joins all settled =>
      simpa [Strand.perform, Strand.inquiry?] using Handshakes.failedClosed joins all settled
  | dropped => exact .dropped

/-- The setup runs out of time. -/
theorem Handshakes.expire {board : Switchboard}
    (handshakes : strand.Handshakes board.directory board.groups alone user principal connection
      issued attempts) :
    (strand.expire board).2.Handshakes board.directory (strand.expire board).1.groups alone user
      principal connection
      (issued ++ issuedBetween strand.underWay (strand.expire board).2.underWay none) attempts := by
  cases handshakes with
  | deciding faithful =>
      rw [underWay_deciding]
      exact handshakes_leaveAll 0 nofun nofun
  | @joining issued attempts batch accounts =>
      have taken : (board.directory.joins principal connection).take issued.length = issued := by
        rw [← accounts.order, List.take_left]
      rw [underWay_joining, ← taken]
      refine handshakes_leaveAll issued.length (fun attempt member => ?_) fun operation busy => ?_
      · exact isJoin_of_issued accounts
          (accounts.answered.subset (List.mem_append_left _ (List.mem_map_of_mem member)))
      · exact isJoin_of_issued accounts
          (accounts.answered.subset (List.mem_append_right _ busy))
  | connected all => simpa [Strand.expire] using Handshakes.connected all
  | leaving joins accounts settled =>
      simpa [Strand.expire] using Handshakes.leaving joins accounts settled
  | failedClosed joins all settled =>
      simpa [Strand.expire] using Handshakes.failedClosed joins all settled
  | dropped => exact .dropped

end Strand

section Handshake

variable {system : System} {user : UserKey} {principal : Principal} {connection : Connection}

/-- A strand that sets a connection up comes one step further. -/
theorem Strand.Handshakes.next (moment : Moment) {moments : List Moment} {position : Nat}
    {strand : Strand} {issued : List Operation} {attempts : List Attempt}
    (handshakes : strand.Handshakes moment.system.board.directory moment.system.board.groups
      (TouchedOnlyBy position connection moments) user principal connection issued attempts)
    (found : moment.system.strands[position]? = some strand) :
    ∃ after, moment.next.strands[position]? = some after ∧
      after.Handshakes moment.system.board.directory moment.next.board.groups
        (TouchedOnlyBy position connection (moments ++ [moment])) user principal connection
        (issued ++ moment.issues position) (attempts ++ (moment.attemptOf? position).toList) := by
  have here : strand.Handshakes moment.system.board.directory moment.system.board.groups
      (TouchedOnlyBy position connection (moments ++ [moment])) user principal connection issued
      attempts :=
    handshakes.mono fun only => ⟨only.of_append, fun _ => rfl⟩
  -- where the strand attempts nothing, nobody touches the memberships
  have quiet (unattempted : moment.attemptOf? position = none) :
      strand.Handshakes moment.system.board.directory moment.next.board.groups
        (TouchedOnlyBy position connection (moments ++ [moment])) user principal connection issued
        attempts :=
    here.mono fun only =>
      ⟨only, only.isMember_next (List.mem_append_right _ List.mem_cons_self) unattempted⟩
  cases moment.turn found handshakes.ne_queued with
  | stays strand_eq elsewhere =>
      have unattempted := Moment.attemptOf?_eq_none elsewhere
      refine ⟨strand, strand_eq, ?_⟩
      simpa [Moment.issues_eq_nil found strand_eq unattempted, unattempted] using quiet unattempted
  | answers spot passage event strand_eq board_eq =>
      refine ⟨_, strand_eq, ?_⟩
      rw [Moment.issues_eq found strand_eq, Moment.attemptOf?_of_perform event found, board_eq]
      exact here.perform passage spot
  | expires event strand_eq board_eq =>
      have unattempted : moment.attemptOf? position = none :=
        Moment.attemptOf?_eq_none (by simp [event])
      refine ⟨_, strand_eq, ?_⟩
      rw [Moment.issues_eq found strand_eq, unattempted, board_eq, Option.toList_none,
        List.append_nil]
      exact here.expire
  | abandoned kept event strand_eq =>
      have unattempted : moment.attemptOf? position = none :=
        Moment.attemptOf?_eq_none (by simp [event])
      refine ⟨_, strand_eq, ?_⟩
      rw [Moment.issues_eq found strand_eq, unattempted, Option.toList_none, List.append_nil]
      cases strand with
      | ended conclusion => simpa [Strand.abandon] using quiet unattempted
      | _ => exact .dropped

/-- Whatever else happens, the strand goes on setting the connection up. -/
theorem handshakes_run (system : System) (known : principal.user = some user)
    (connection : Connection) (rest : List Event) :
    ∃ strand, (system.run (setup principal connection rest)).strands[system.strands.length]? =
        some strand ∧
      strand.Handshakes system.board.directory
        (system.run (setup principal connection rest)).board.groups
        (TouchedOnlyBy system.strands.length connection
          (system.moments (setup principal connection rest)))
        user principal connection
        (issuedBy system.strands.length (system.moments (setup principal connection rest)))
        (attemptsOf system.strands.length (system.moments (setup principal connection rest))) := by
  induction rest using List.reverseRecOn with
  | nil =>
      obtain ⟨found, -⟩ := connect_step system connection known
      have none_before : system.underWay system.strands.length = [] := by
        simp [System.underWay]
      have issued : issuedBy system.strands.length (system.moments (setup principal connection [])) =
          (Strand.ofAssignment user (Assignment.start { system.board with
            presence := system.board.presence.add user connection } user principal connection).2
          true).underWay := by
        simp only [setup, System.moments, issuedBy, List.flatMap_cons, List.flatMap_nil,
          List.append_nil, Moment.issues, none_before]
        simp only [System.underWay, Moment.next, found]
        exact issuedBetween_from_nil _
      refine ⟨_, found, ?_⟩
      rw [issued]
      exact Strand.handshakes_settle (Evaluation.faithful_start system.board.directory principal)
  | append_singleton events event induction =>
      obtain ⟨strand, found, handshakes⟩ := induction
      have directory : (system.run (setup principal connection events)).board.directory =
          system.board.directory := system.run_directory _
      have whole : setup principal connection (events ++ [event]) =
          setup principal connection events ++ [event] := rfl
      rw [whole, System.run_concat, System.moments_concat, issuedBy_concat, attemptsOf_concat]
      rw [← directory] at handshakes ⊢
      exact Strand.Handshakes.next ⟨system.run (setup principal connection events), event⟩
        handshakes found

end Handshake

/-- A connection whose user is not known is refused, and nothing is done for it. -/
structure System.RefusesSetup (system : System) (principal : Principal) (connection : Connection)
    (rest : List Event) : Prop where
  /-- The request changes nothing: who is registered, who is in which group, what the exchange has
  logged and what the interference does next. -/
  board : (system.step (.submit (.connect principal connection))).board = system.board
  /-- The strand reports that the user is not known, and stays with that. -/
  refused : (system.run (setup principal connection rest)).strands[system.strands.length]? =
    some (.ended (.refused (.unauthenticated connection)))
  /-- It issues nothing, attempts nothing and asks no guard. -/
  silent : issuedBy system.strands.length (system.moments (setup principal connection rest)) = [] ∧
    attemptsOf system.strands.length (system.moments (setup principal connection rest)) = [] ∧
    questionsOf system.strands.length (system.moments (setup principal connection rest)) = []

/-- What comes of the setup of a connection whose user is known. -/
structure System.ConcludesSetup (system : System) (user : UserKey) (principal : Principal)
    (connection : Connection) (rest : List Event) : Prop where
  /-- The request registers the connection. -/
  added : ∀ other member,
    (system.step (.submit (.connect principal connection))).board.presence.contains other member =
        true ↔
      (other = user ∧ member = connection) ∨ system.board.presence.contains other member = true
  /-- The connection stays registered unless it is disconnected. -/
  registered : (∀ event ∈ rest, event ≠ .disconnect user connection) →
    (system.run (setup principal connection rest)).board.presence.contains user connection = true
  /-- Nothing that happens to the strand afterwards changes who is registered. -/
  presence : ∀ moment ∈ (system.step (.submit (.connect principal connection))).moments rest,
    moment.event.strand? = some system.strands.length →
      moment.next.board.presence = moment.system.board.presence
  /-- The strand ends in one of two ways. -/
  concluded : ∀ conclusion,
    (system.run (setup principal connection rest)).strands[system.strands.length]? =
        some (.ended conclusion) →
      ∃ report, conclusion = .connected report ∨ conclusion = .failedClosed report
  /-- If it reports that the connection was set up, it has issued every join for an authorised channel,
  each once, and nothing else, and it tells what became of these joins. -/
  connected : ∀ report,
    (system.run (setup principal connection rest)).strands[system.strands.length]? =
        some (.ended (.connected report)) →
      issuedBy system.strands.length (system.moments (setup principal connection rest)) =
          system.board.directory.joins principal connection ∧
        report.Covers user 1 (system.board.directory.joins principal connection) ∧
        report.Tells
          (attemptsOf system.strands.length (system.moments (setup principal connection rest)))
  /-- If it reports that time ran out, it has issued some of these joins, then the leaves from all known
  channels, each once, and nothing else, and it tells what became of the leaves. -/
  failedClosed : ∀ report,
    (system.run (setup principal connection rest)).strands[system.strands.length]? =
        some (.ended (.failedClosed report)) →
      ∃ count, issuedBy system.strands.length (system.moments (setup principal connection rest)) =
          (system.board.directory.joins principal connection).take count ++
            system.board.leaveAll connection ∧
        report.Covers user 1 (system.board.leaveAll connection) ∧
        report.Tells
          ((attemptsOf system.strands.length (system.moments (setup principal connection rest))).filter
            fun attempt => !attempt.operation.isJoin)
  /-- If moreover nobody else touches the memberships of the connection, it is a member at most where
  its leave failed. -/
  left : TouchedOnlyBy system.strands.length connection
      (system.moments (setup principal connection rest)) →
    ∀ report, (system.run (setup principal connection rest)).strands[system.strands.length]? =
        some (.ended (.failedClosed report)) →
      ∀ channel, system.board.directory.governs channel = true →
        (system.run (setup principal connection rest)).board.groups.isMember channel connection =
            true →
          ∃ error, (.leave connection channel, error) ∈ report.failures
  /-- Answers to the strand can always bring it to its end. -/
  finishes : ∃ answers, (∀ event ∈ answers, event.Advances system.strands.length) ∧
    (system.run (setup principal connection rest ++ answers)).Finished system.strands.length

theorem refusesSetup (system : System) {principal : Principal} (unknown : principal.user = none)
    (connection : Connection) (rest : List Event) :
    system.RefusesSetup principal connection rest := by
  have begun : system.step (.submit (.connect principal connection)) =
      { system with
        strands := system.strands ++ [.ended (.refused (.unauthenticated connection))] } := by
    simp only [System.step, System.submit, Request.begin, unknown]
  have found : (system.step (.submit (.connect principal connection))).strands[
      system.strands.length]? = some (.ended (.refused (.unauthenticated connection))) := by
    rw [begun]
    exact List.getElem?_concat_length
  obtain ⟨refused, unissued, unattempted, unasked⟩ := System.silent_of_isOver found rfl rest
  have none_issued : Moment.issues system.strands.length
      ⟨system, .submit (.connect principal connection)⟩ = [] := by
    simp only [Moment.issues, System.underWay, Moment.next, found]
    exact issuedBetween_to_nil _ _
  refine ⟨by rw [begun], refused, ?_, ?_, ?_⟩
  · simp only [setup, System.moments, issuedBy, List.flatMap_cons, none_issued, List.nil_append]
    exact unissued
  · exact unattempted
  · exact unasked

/-- Before any channel is left, a join is all that can have been attempted; afterwards there is nothing
but leaves. -/
theorem filter_leaves {directory : Directory} {connection : Connection}
    {before attempts : List Attempt} (joins : ∀ attempt ∈ before, attempt.operation.isJoin = true)
    (all : (attempts.map Attempt.operation).Perm (Work.revoke.operations directory [connection])) :
    ((before ++ attempts).filter fun attempt => !attempt.operation.isJoin) = attempts := by
  have none_before : (before.filter fun attempt => !attempt.operation.isJoin) = [] :=
    List.filter_eq_nil_iff.2 fun attempt member => by simp [joins attempt member]
  have all_after : (attempts.filter fun attempt => !attempt.operation.isJoin) = attempts := by
    refine List.filter_eq_self.2 fun attempt member => ?_
    obtain ⟨-, -, leaves⟩ :=
      (Work.mem_operations _ _).1 (all.subset (List.mem_map_of_mem member))
    simpa [Work.grants] using leaves
  rw [List.filter_append, none_before, all_after, List.nil_append]

/-- Where a leave has been attempted on every known channel, the connection is a member at most where
its leave failed. -/
theorem failed_of_isMember {directory : Directory} {connection : Connection}
    {attempts : List Attempt}
    (all : (attempts.map Attempt.operation).Perm (Work.revoke.operations directory [connection]))
    (former : Groups) {channel : Channel} (governed : directory.governs channel = true)
    (member : (former.afterAll attempts).isMember channel connection = true) :
    ∃ error, ⟨.leave connection channel, .error error⟩ ∈ attempts := by
  have issued : Operation.leave connection channel ∈
      Work.revoke.operations directory [connection] :=
    (Work.mem_operations _ _).2 ⟨List.mem_singleton_self connection, governed, rfl⟩
  obtain ⟨⟨operation, delivery⟩, attempted, same⟩ := List.mem_map.1 (all.symm.subset issued)
  obtain rfl : operation = .leave connection channel := same
  have distinct : (attempts.map fun attempt => attempt.operation.pair).Nodup := by
    have pairs := (all.map Operation.pair).nodup_iff.2
      (Work.revoke.nodup_operations (List.nodup_singleton connection))
    rwa [List.map_map] at pairs
  cases delivery with
  | error error => exact ⟨error, attempted⟩
  | ok done =>
      have left : (former.afterAll attempts).isMember channel connection = false :=
        (former.isMember_afterAll_of_mem distinct attempted).trans
          (former.isMember_after_self (.leave connection channel))
      rw [member] at left
      cases left

theorem concludesSetup (system : System) {user : UserKey} {principal : Principal}
    (known : principal.user = some user) (connection : Connection) (rest : List Event) :
    system.ConcludesSetup user principal connection rest := by
  obtain ⟨strand, found, handshakes⟩ := handshakes_run system known connection rest
  have leaves := Work.operations_revoke_singleton system.board connection
  refine ⟨fun other member => ?_, fun stays => (connecting_run system known rest stays).1,
    fun moment member here => ?_, fun conclusion ended => ?_, fun report ended => ?_,
    fun report ended => ?_, fun only report ended channel governed present => ?_, ?_⟩
  · cases principal with
    | mk key claims =>
        obtain rfl : key = some user := known
        rw [System.step_presence]
        exact Presence.contains_add _ _ _ _ _
  · rw [Moment.next, System.step_presence]
    cases event : moment.event <;> first | rfl | simp [event, Event.strand?] at here
  · rw [found] at ended
    obtain rfl := Option.some.inj ended
    exact handshakes.conclusion_eq
  · rw [found] at ended
    obtain rfl := Option.some.inj ended
    obtain ⟨issued, all, rfl⟩ := handshakes.of_connected
    exact ⟨issued, Report.covers_tell all user 1, Report.tells_tell user 1 _⟩
  · rw [found] at ended
    obtain rfl := Option.some.inj ended
    obtain ⟨count, before, attempts, former, issued, attempted, joins, all, rfl, -⟩ :=
      handshakes.of_failedClosed
    rw [attempted, filter_leaves joins all]
    rw [leaves] at issued all
    exact ⟨count, issued, Report.covers_tell all user 1, Report.tells_tell user 1 _⟩
  · rw [found] at ended
    obtain rfl := Option.some.inj ended
    obtain ⟨count, before, attempts, former, -, -, -, all, rfl, settled⟩ :=
      handshakes.of_failedClosed
    rw [settled only channel] at present
    obtain ⟨error, failed⟩ := failed_of_isMember all former governed present
    exact ⟨error, by rwa [(Report.tells_tell user 1 attempts).failures_eq, Attempt.mem_rejected]⟩
  · obtain ⟨begun, -⟩ := connect_step system connection known
    obtain ⟨strand, present, steady⟩ := System.steady_run_of_strand begun
      (.assigning user true (Assignment.steady_start _ _ _ _)) rest
    obtain ⟨answers, advances, finished⟩ := System.exists_finished present steady
    refine ⟨answers, advances, ?_⟩
    rw [System.run_append]
    exact finished

/-- A connection is refused, or it is registered and set up until it has been asked to join every
channel its principal is authorised for, or time runs out and it has been asked to leave every known
channel. -/
theorem setup_concludes (system : System) (principal : Principal) (connection : Connection)
    (rest : List Event) :
    (principal.user = none → system.RefusesSetup principal connection rest) ∧
      ∀ user, principal.user = some user →
        system.ConcludesSetup user principal connection rest :=
  ⟨fun unknown => refusesSetup system unknown connection rest,
    fun _ known => concludesSetup system known connection rest⟩

/-- The newsroom with an editor's connection in its channel. -/
def joinedNewsroom : System :=
  quietNewsroom.run [.submit (.assign editor ⟨"c1"⟩),
    .perform 0 (.question ⟨"news"⟩) .through,
    .perform 0 (.operation (.join ⟨"c1"⟩ ⟨"news"⟩)) .through]

/-- Time runs out while the connection is being joined, and then its leave fails. -/
def lateSetup : List Event :=
  [.perform 1 (.question ⟨"news"⟩) .through,
    .expire 1,
    .perform 1 (.operation (.leave ⟨"c1"⟩ ⟨"news"⟩)) (.blocked (.failed "lost"))]

/-- The guard is asked in time, and the join is carried out. -/
def timelySetup : List Event :=
  [.perform 1 (.question ⟨"news"⟩) .through,
    .perform 1 (.operation (.join ⟨"c2"⟩ ⟨"news"⟩)) .through]

theorem late_setup_fails_closed_in_newsroom :
    joinedNewsroom.RefusesSetup .unresolved ⟨"c1"⟩ lateSetup ∧
      (∃ report,
        (joinedNewsroom.run (setup editor ⟨"c2"⟩ timelySetup)).strands[1]? =
          some (.ended (.connected report)) ∧
        issuedBy 1 (joinedNewsroom.moments (setup editor ⟨"c2"⟩ timelySetup)) =
          [.join ⟨"c2"⟩ ⟨"news"⟩] ∧
        report.Covers firstUser 1 [.join ⟨"c2"⟩ ⟨"news"⟩] ∧
        report.applied = [.join ⟨"c2"⟩ ⟨"news"⟩]) ∧
      ∃ report count,
        (joinedNewsroom.run (setup editor ⟨"c1"⟩ lateSetup)).strands[1]? =
          some (.ended (.failedClosed report)) ∧
        issuedBy 1 (joinedNewsroom.moments (setup editor ⟨"c1"⟩ lateSetup)) =
          (newsroom.joins editor ⟨"c1"⟩).take count ++ joinedNewsroom.board.leaveAll ⟨"c1"⟩ ∧
        (joinedNewsroom.run (setup editor ⟨"c1"⟩ lateSetup)).board.groups.isMember ⟨"news"⟩
          ⟨"c1"⟩ = true ∧
        ∃ error, (.leave ⟨"c1"⟩ ⟨"news"⟩, error) ∈ report.failures := by
  obtain ⟨refuses, -⟩ := setup_concludes joinedNewsroom .unresolved ⟨"c1"⟩ lateSetup
  obtain ⟨-, connects⟩ := setup_concludes joinedNewsroom editor ⟨"c2"⟩ timelySetup
  obtain ⟨-, concludes⟩ := setup_concludes joinedNewsroom editor ⟨"c1"⟩ lateSetup
  have connected : (joinedNewsroom.run (setup editor ⟨"c2"⟩ timelySetup)).strands[1]? =
      some (.ended (.connected ⟨some firstUser, 1, [.join ⟨"c2"⟩ ⟨"news"⟩], []⟩)) := rfl
  have ended : (joinedNewsroom.run (setup editor ⟨"c1"⟩ lateSetup)).strands[1]? =
      some (.ended (.failedClosed
        ⟨some firstUser, 1, [], [(.leave ⟨"c1"⟩ ⟨"news"⟩, .failed "lost")]⟩)) := rfl
  have joins : joinedNewsroom.board.directory.joins editor ⟨"c2"⟩ = [.join ⟨"c2"⟩ ⟨"news"⟩] := by
    decide +kernel
  have present : (joinedNewsroom.run (setup editor ⟨"c1"⟩ lateSetup)).board.groups.isMember
      ⟨"news"⟩ ⟨"c1"⟩ = true := by decide +kernel
  have alone : TouchedOnlyBy 1 ⟨"c1"⟩ (joinedNewsroom.moments (setup editor ⟨"c1"⟩ lateSetup)) :=
    touchedOnlyBy_of_attempts (by simp [setup, lateSetup]) (by decide +kernel)
  obtain ⟨issued, covers, -⟩ := (connects firstUser rfl).connected _ connected
  rw [joins] at issued covers
  have concluded := concludes firstUser rfl
  obtain ⟨count, leaves, -, -⟩ := concluded.failedClosed _ ended
  exact ⟨refuses rfl, ⟨_, connected, issued, covers, rfl⟩, _, count, ended, leaves, present,
    concluded.left alone _ ended ⟨"news"⟩ (by decide +kernel) present⟩

end ChannelMembership
