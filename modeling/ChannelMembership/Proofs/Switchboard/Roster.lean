import ChannelMembership.Proofs.Exactness
import ChannelMembership.Proofs.Switchboard.Duty

/-!
# Strands among themselves

A request that serves several users has one strand with one duty for each of them.  While nothing
happens but that these strands go on, in any order, each of them does its duty as if it were alone.
-/

namespace ChannelMembership

/-- The duties that a request brings up. -/
def Request.duties (board : Switchboard) : Request → List Duty
  | .change audience =>
    (audience.members board.presence).map fun user => (board.accounts user).duty user
  | .revokeUser user => [⟨user, .revoke, none⟩]
  | _ => []

namespace Request

variable {board : Switchboard} {audience : Audience}

/-- The duty that a permission change brings up for a user. -/
theorem duty_of_change {index : Nat} {user : UserKey}
    (listed : (audience.members board.presence)[index]? = some user) :
    ((change audience).duties board)[index]? = some ((board.accounts user).duty user) := by
  rw [duties, List.getElem?_map, listed, Option.map_some]

theorem length_duties_change (board : Switchboard) (audience : Audience) :
    ((change audience).duties board).length = (audience.members board.presence).length :=
  List.length_map _

theorem map_user_duties_change (board : Switchboard) (audience : Audience) :
    ((change audience).duties board).map Duty.user = audience.members board.presence := by
  rw [duties, List.map_map]
  exact List.map_id _

/-- A request that brings up duties begins with one strand for each of them. -/
theorem length_begin {request : Request} {duty : Duty} (member : duty ∈ request.duties board) :
    (request.begin board).2.length = (request.duties board).length := by
  cases request with
  | change audience => rw [length_duties_change, «begin», List.length_map]
  | revokeUser user => rfl
  | _ => cases member

/-- Nobody is at work where a change has something to do. -/
theorem idle_duties_change
    (idle : ∀ user ∈ audience.members board.presence, board.slots.slot user = .idle) :
    ∀ duty ∈ (change audience).duties board, board.slots.slot duty.user = .idle := by
  intro duty member
  obtain ⟨user, listed, rfl⟩ := List.mem_map.1 member
  exact idle user listed

end Request

/-- Different strands serve different users. -/
theorem index_of_user {duties : List Duty} (distinct : (duties.map Duty.user).Nodup)
    {index other : Nat} {duty duty' : Duty} (assigned : duties[index]? = some duty)
    (assigned' : duties[other]? = some duty') (same : duty.user = duty'.user) : index = other := by
  have inside : index < (duties.map Duty.user).length := by
    rw [List.length_map]
    exact (List.getElem?_eq_some_iff.1 assigned).1
  refine (List.getElem?_inj inside distinct).1 ?_
  rw [List.getElem?_map, List.getElem?_map, assigned, assigned', Option.map_some, same,
    Option.map_some]

/-- Nothing happens but that strands go on, which are so many from a first one. -/
def Secluded (first count : Nat) (rest : List Event) : Prop :=
  ∀ event ∈ rest, ∃ index < count, event.Furthers (first + index)

theorem Secluded.of_append {first count : Nat} {before after : List Event}
    (secluded : Secluded first count (before ++ after)) : Secluded first count before :=
  fun event member => secluded event (List.mem_append_left _ member)

namespace System

variable {system : System} {first count : Nat} {rest : List Event}

/-- While strands go on, nobody comes or goes, and the account store knows what it knew. -/
theorem board_run_of_secluded (system : System) (secluded : Secluded first count rest) :
    (system.run rest).board =
      { system.board with
        tabulated := (system.run rest).board.tabulated
        slots := (system.run rest).board.slots
        link := (system.run rest).board.link } := by
  induction rest using List.reverseRecOn with
  | nil => rfl
  | append_singleton rest event induction =>
      obtain ⟨index, -, furthers⟩ :=
        secluded event (List.mem_append_right _ List.mem_cons_self)
      rw [run_concat, board_step_of_furthers _ furthers, induction secluded.of_append]

/-- Strands in a row tend to duties. -/
def Tended (system : System) (first : Nat) (duties : List Duty) (moments : List Moment) : Prop :=
  ∀ index duty, duties[index]? = some duty → ∃ strand,
    system.strands[first + index]? = some strand ∧
      strand.Tends system.board duty (issuedBy (first + index) moments)
        (attemptsOf (first + index) moments) (questionsOf (first + index) moments)

variable {duties : List Duty} {moments : List Moment}

/-- One of the strands goes on. -/
theorem Tended.step (tended : system.Tended first duties moments)
    (distinct : (duties.map Duty.user).Nodup) {event : Event} {index : Nat}
    (inside : index < duties.length) (furthers : event.Furthers (first + index)) :
    (system.step event).Tended first duties (moments ++ [⟨system, event⟩]) := by
  intro other duty assigned
  obtain ⟨strand, found, tends⟩ := tended other duty assigned
  rw [issuedBy_concat, attemptsOf_concat, questionsOf_concat]
  by_cases here : other = index
  · subst here
    exact tends.next ⟨system, event⟩ found furthers
  · obtain ⟨mover, moverFound, moverTends⟩ :=
      tended index duties[index] (List.getElem?_eq_getElem inside)
    have apart : duty.user ≠ duties[index].user := fun same =>
      here (index_of_user distinct assigned (List.getElem?_eq_getElem inside) same)
    exact ⟨strand, tends.next_of_other ⟨system, event⟩ found
      (show first + index ≠ first + other by omega) furthers
      (moverTends.slot_next ⟨system, event⟩ moverFound furthers apart)⟩

/-- The strands go on, in any order. -/
theorem Tended.run (tended : system.Tended first duties moments)
    (distinct : (duties.map Duty.user).Nodup) (secluded : Secluded first duties.length rest) :
    (system.run rest).Tended first duties (moments ++ system.moments rest) := by
  induction rest using List.reverseRecOn with
  | nil => simpa [System.moments] using tended
  | append_singleton rest event induction =>
      obtain ⟨index, inside, furthers⟩ :=
        secluded event (List.mem_append_right _ List.mem_cons_self)
      rw [run_concat, moments_concat, ← List.append_assoc]
      exact (induction secluded.of_append).step distinct inside furthers

theorem duties_distinct (system : System) (request : Request) :
    ((request.duties system.board).map Duty.user).Nodup := by
  cases request with
  | change audience =>
      rw [Request.map_user_duties_change]
      exact audience.nodup_members system.board.presence
  | revokeUser user => exact List.nodup_singleton user
  | _ => exact List.nodup_nil

/-- What a strand does at the moment at which its request is made. -/
theorem history_of_submit (system : System) (request : Request) {position : Nat} {strand : Strand}
    (fresh : system.strands.length ≤ position)
    (found : (system.step (.submit request)).strands[position]? = some strand) :
    issuedBy position (system.moments [.submit request]) = strand.underWay ∧
      attemptsOf position (system.moments [.submit request]) = [] ∧
      questionsOf position (system.moments [.submit request]) = [] := by
  have nobody : system.underWay position = [] := by
    simp [System.underWay, List.getElem?_eq_none fresh]
  have begins : (system.step (.submit request)).underWay position = strand.underWay := by
    simp [System.underWay, found]
  refine ⟨?_, rfl, rfl⟩
  simp only [System.moments, issuedBy, List.flatMap_cons, List.flatMap_nil, List.append_nil,
    Moment.issues, Moment.next, nobody, begins]
  exact issuedBetween_from_nil _

/-- At first all users of a permission change wait to be looked at. -/
theorem queued_of_change (system : System) {audience : Audience} {index : Nat} {user : UserKey}
    (listed : (audience.members system.board.presence)[index]? = some user) :
    (system.step (.submit (.change audience))).strands[system.strands.length + index]? =
      some (.queued user) := by
  simp only [System.step, System.submit, Request.begin]
  rw [List.getElem?_append_right (Nat.le_add_right _ _), Nat.add_sub_cancel_left,
    List.getElem?_map, listed, Option.map_some]

/-- When a request is made, its strands begin to do their duties. -/
theorem tended_submit (system : System) (request : Request)
    (idle : ∀ duty ∈ request.duties system.board, system.board.slots.slot duty.user = .idle) :
    (system.step (.submit request)).Tended system.strands.length (request.duties system.board)
      (system.moments [.submit request]) := by
  intro index duty assigned
  have member := List.mem_of_getElem? assigned
  have free := idle duty member
  cases request with
  | change audience =>
      simp only [Request.duties, List.getElem?_map, Option.map_eq_some_iff] at assigned
      obtain ⟨user, listed, rfl⟩ := assigned
      have found := system.queued_of_change listed
      obtain ⟨issued, attempts, questions⟩ :=
        system.history_of_submit _ (Nat.le_add_right _ index) found
      rw [issued, attempts, questions]
      exact ⟨_, found, .queued free rfl⟩
  | revokeUser user =>
      obtain rfl : duty = ⟨user, .revoke, none⟩ := by simpa [Request.duties] using member
      obtain rfl : index = 0 := by
        simpa [Request.duties] using (List.getElem?_eq_some_iff.1 assigned).1
      have found : (system.step (.submit (.revokeUser user))).strands[
          system.strands.length + 0]? =
            some (Strand.submit system.board user .revoke none).2 :=
        List.getElem?_concat_length
      obtain ⟨issued, attempts, questions⟩ :=
        system.history_of_submit _ (Nat.le_add_right _ 0) found
      rw [issued, attempts, questions]
      exact ⟨_, found, Strand.tends_submit ⟨user, .revoke, none⟩ free (.inr rfl)⟩
  | _ => cases member

/-- The strands of a request do their duties, in any order. -/
theorem tended_run (system : System) (request : Request)
    (idle : ∀ duty ∈ request.duties system.board, system.board.slots.slot duty.user = .idle)
    (secluded : Secluded system.strands.length (request.duties system.board).length rest) :
    (system.run (.submit request :: rest)).Tended system.strands.length
      (request.duties system.board) (system.moments (.submit request :: rest)) :=
  (system.tended_submit request idle).run (system.duties_distinct request) secluded

/-- A request that brings up duties changes neither presence nor what the account store knows. -/
theorem board_of_duties (system : System) {request : Request} {duty : Duty}
    (member : duty ∈ request.duties system.board)
    (secluded : Secluded system.strands.length (request.duties system.board).length rest) :
    (system.run (.submit request :: rest)).board.presence = system.board.presence ∧
      (system.run (.submit request :: rest)).board.accounts = system.board.accounts := by
  have board := (system.step (.submit request)).board_run_of_secluded secluded
  have presence : (system.step (.submit request)).board.presence = system.board.presence := by
    rw [step_presence]
    cases request <;> first | rfl | cases member
  refine ⟨?_, ?_⟩
  · rw [run_cons, board]
    exact presence
  · rw [run_cons, board]
    exact system.step_accounts nofun

/-- Each strand of a request does its duty for the connections that its user has when the request is
made. -/
theorem tends_run (system : System) (request : Request)
    (idle : ∀ duty ∈ request.duties system.board, system.board.slots.slot duty.user = .idle)
    (secluded : Secluded system.strands.length (request.duties system.board).length rest)
    {index : Nat} {duty : Duty} (assigned : (request.duties system.board)[index]? = some duty) :
    ∃ strand,
      (system.run (.submit request :: rest)).strands[system.strands.length + index]? =
        some strand ∧
      strand.Tends
        { system.board with slots := (system.run (.submit request :: rest)).board.slots } duty
        (issuedBy (system.strands.length + index) (system.moments (.submit request :: rest)))
        (attemptsOf (system.strands.length + index) (system.moments (.submit request :: rest)))
        (questionsOf (system.strands.length + index)
          (system.moments (.submit request :: rest))) := by
  obtain ⟨strand, found, tends⟩ := system.tended_run request idle secluded index duty assigned
  obtain ⟨presence, accounts⟩ := system.board_of_duties (List.mem_of_getElem? assigned) secluded
  exact ⟨strand, found, tends.mono (system.run_directory _).symm presence.symm accounts.symm rfl⟩

/-- Strands that tend to duties can be brought to their end. -/
theorem Tended.exists_finish (tended : system.Tended first duties moments) :
    ∃ more, (∀ event ∈ more, ∃ index < duties.length, event.Advances (first + index)) ∧
      ∀ index < duties.length, (system.run more).Finished (first + index) := by
  have good : ∀ position ∈ List.range' first duties.length, ∃ strand,
      system.strands[position]? = some strand ∧ strand.Steady := by
    intro position member
    obtain ⟨index, inside, rfl⟩ := List.mem_range'.1 member
    obtain ⟨strand, found, tends⟩ := tended index _ (List.getElem?_eq_getElem inside)
    rw [Nat.one_mul]
    exact ⟨strand, found, tends.steady⟩
  obtain ⟨more, advances, -, finished⟩ := exists_finish_all good
  refine ⟨more, fun event member => ?_, fun index inside => ?_⟩
  · obtain ⟨position, among, advances⟩ := advances event member
    obtain ⟨index, inside, rfl⟩ := List.mem_range'.1 among
    rw [Nat.one_mul] at advances
    exact ⟨index, inside, advances⟩
  · exact finished _ (List.mem_range'.2 ⟨index, inside, by omega⟩)

/-- The strand of a user does not wait for the account store to answer, or not any more. -/
def Answered (system : System) (first : Nat) (duties : List Duty) (user : UserKey) : Prop :=
  ∃ index duty strand, duties[index]? = some duty ∧ duty.user = user ∧
    system.strands[first + index]? = some strand ∧ strand.isUnanswered = false

theorem answered_iff (distinct : (duties.map Duty.user).Nodup) {index : Nat} {duty : Duty}
    {strand : Strand} (assigned : duties[index]? = some duty)
    (found : system.strands[first + index]? = some strand) :
    system.Answered first duties duty.user ↔ strand.isUnanswered = false := by
  constructor
  · rintro ⟨other, duty', strand', assigned', same, found', answered⟩
    rw [index_of_user distinct assigned' assigned same] at found'
    cases found.symm.trans found'
    exact answered
  · exact fun answered => ⟨index, duty, strand, assigned, rfl, found, answered⟩

/-- Whether the account store has answered about a user depends on the user's own strand. -/
theorem answered_congr {after : System} {index : Nat} {duty : Duty} {user : UserKey}
    (assigned : duties[index]? = some duty) (apart : user ≠ duty.user)
    (elsewhere : ∀ other, other ≠ index →
      after.strands[first + other]? = system.strands[first + other]?) :
    after.Answered first duties user ↔ system.Answered first duties user := by
  refine exists_congr fun other => exists_congr fun duty' => exists_congr fun strand =>
    and_congr_right fun assigned' => and_congr_right fun same => ?_
  rw [elsewhere other]
  rintro rfl
  cases assigned.symm.trans assigned'
  exact apart same.symm

/-- The account store has answered once about each user who is online, unless the user's strand still
waits for it, and about nobody else. -/
structure Asked (system : System) (first : Nat) (duties : List Duty) (asked : List UserKey) :
    Prop where
  /-- It has not answered about anybody twice. -/
  once : asked.Nodup
  /-- It has not answered about those who are offline or still wait. -/
  mem_iff : ∀ user, user ∈ asked ↔
    system.board.presence.isOnline user = true ∧ system.Answered first duties user

/-- One of the strands goes on. -/
theorem Asked.step {asked : List UserKey} (once : system.Asked first duties asked)
    (tended : system.Tended first duties moments) (distinct : (duties.map Duty.user).Nodup)
    {event : Event} {index : Nat} (inside : index < duties.length)
    (furthers : event.Furthers (first + index)) :
    (system.step event).Asked first duties
      (asked ++ (Moment.lookedUp? ⟨system, event⟩).toList) := by
  have assigned := List.getElem?_eq_getElem inside
  obtain ⟨strand, found, tends⟩ := tended index _ assigned
  obtain ⟨after, present, -⟩ := tends.next ⟨system, event⟩ found furthers
  have presence : (system.step event).board.presence = system.board.presence := by
    rw [board_step_of_furthers _ furthers]
  have before := answered_iff distinct assigned found
  have later := answered_iff distinct assigned present
  have others {user : UserKey} (apart : user ≠ duties[index].user) :
      (system.step event).Answered first duties user ↔ system.Answered first duties user := by
    refine answered_congr assigned apart fun other different => ?_
    exact system.getElem?_step_of_furthers furthers (by omega)
  cases lookedUp : Moment.lookedUp? ⟨system, event⟩ with
  | some user =>
      obtain ⟨rfl, online, waiting, answered⟩ := tends.of_lookedUp? found furthers lookedUp
      have fresh : duties[index].user ∉ asked := fun among => by
        rw [before.1 ((once.mem_iff _).1 among).2] at waiting
        cases waiting
      refine ⟨once.once.append (Option.toList_nodup _) fun user among mine => ?_, fun user => ?_⟩
      · rw [Option.mem_toList, Option.some.injEq] at mine
        exact fresh (mine ▸ among)
      · rw [List.mem_append, Option.mem_toList, Option.some.injEq, presence, once.mem_iff]
        by_cases mine : user = duties[index].user
        · subst mine
          exact iff_of_true (.inr rfl) ⟨online, later.2 (answered after present)⟩
        · rw [others mine, or_iff_left (Ne.symm mine)]
  | none =>
      rw [Option.toList_none, List.append_nil]
      refine ⟨once.once, fun user => ?_⟩
      rw [once.mem_iff, presence]
      refine and_congr_right fun online => ?_
      by_cases mine : user = duties[index].user
      · subst mine
        exact before.trans (tends.isUnanswered_next found furthers online lookedUp present ▸ later.symm)
      · exact (others mine).symm

/-- The strands go on, in any order. -/
theorem Asked.run {asked : List UserKey} (once : system.Asked first duties asked)
    (tended : system.Tended first duties moments) (distinct : (duties.map Duty.user).Nodup)
    (secluded : Secluded first duties.length rest) :
    (system.run rest).Asked first duties
      (asked ++ (system.moments rest).filterMap Moment.lookedUp?) := by
  induction rest using List.reverseRecOn with
  | nil => simpa [System.moments] using once
  | append_singleton rest event induction =>
      obtain ⟨index, inside, furthers⟩ :=
        secluded event (List.mem_append_right _ List.mem_cons_self)
      have later := (induction secluded.of_append).step (tended.run distinct secluded.of_append)
        distinct inside furthers
      rw [run_concat, moments_concat, List.filterMap_append, ← List.append_assoc]
      cases asks : Moment.lookedUp? ⟨system.run rest, event⟩ <;> simpa [asks] using later

end System
end ChannelMembership
