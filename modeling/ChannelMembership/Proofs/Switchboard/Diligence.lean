import ChannelMembership.Proofs.Switchboard.Employment

/-!
# How a worker keeps to its queue

What was accepted is what the worker has taken up and what is still queued, in this order.  While
the worker is free, everything that it took up is finished and counted; while it is busy, this holds
of everything but the last errand, whose strands can be brought to their end.
-/

namespace ChannelMembership

/-- Nothing is accepted that is not sent. -/
theorem Moment.accepted?_of_silent {post : Nat} {moment : Moment}
    (silent : moment.offered? post = none) : moment.accepted? post = none := by
  rw [accepted?, silent, ite_self]

/-- A queue holds as many changes as its capacity says, but at least one. -/
theorem Switchboard.queueCapacity_eq_max (board : Switchboard) :
    board.queueCapacity = max 1 board.limits.changesQueued.val := by
  unfold queueCapacity atLeastOne
  split <;> omega

theorem Switchboard.queueCapacity_pos (board : Switchboard) : 0 < board.queueCapacity :=
  atLeastOne_pos _

/-- A worker that has taken up nothing yet. -/
def Worker.waiting (queue : List Audience) : Worker := ⟨queue, true, none, 0, false⟩

/-- The changes that were sent to a worker. -/
def offers (post : Nat) (moments : List Moment) : List Audience :=
  moments.filterMap (Moment.offered? post)

/-- The changes that were sent to a worker and not turned away. -/
def acceptances (post : Nat) (moments : List Moment) : List Audience :=
  moments.filterMap (Moment.accepted? post)

/-- The changes that a worker has taken up. -/
def errands (post : Nat) (moments : List Moment) : List Errand :=
  moments.filterMap (Moment.takenUp? post)

theorem offers_append (post : Nat) (first second : List Moment) :
    offers post (first ++ second) = offers post first ++ offers post second :=
  List.filterMap_append

theorem offers_singleton (post : Nat) (moment : Moment) :
    offers post [moment] = (moment.offered? post).toList := by
  cases sent : moment.offered? post <;> simp [offers, sent]

theorem acceptances_append (post : Nat) (first second : List Moment) :
    acceptances post (first ++ second) = acceptances post first ++ acceptances post second :=
  List.filterMap_append

theorem acceptances_singleton (post : Nat) (moment : Moment) :
    acceptances post [moment] = (moment.accepted? post).toList := by
  cases taken : moment.accepted? post <;> simp [acceptances, taken]

/-- Where nothing is sent, nothing is accepted. -/
theorem acceptances_of_silent {post : Nat} {moments : List Moment}
    (silent : offers post moments = []) : acceptances post moments = [] :=
  List.filterMap_eq_nil_iff.2 fun moment member =>
    Moment.accepted?_of_silent (List.filterMap_eq_nil_iff.1 silent moment member)

/-- All strands of a change are over. -/
def Errand.Finished (errand : Errand) (system : System) : Prop :=
  ∀ position ∈ errand.strands, system.Finished position

/-- The strands of a change can be brought to their end. -/
def Errand.Promising (errand : Errand) (system : System) : Prop :=
  ∀ position ∈ errand.strands, ∃ strand,
    system.strands[position]? = some strand ∧ strand.Steady

namespace Errand

variable {errand : Errand} {moment : Moment}

theorem Finished.next (finished : errand.Finished moment.system) :
    errand.Finished moment.next :=
  fun position member => (finished position member).step moment.event

theorem Promising.next (promising : errand.Promising moment.system) :
    errand.Promising moment.next := by
  intro position member
  obtain ⟨strand, found, good⟩ := promising position member
  obtain ⟨after, present, change⟩ := moment.strand_next found
  refine ⟨after, present, ?_⟩
  rcases change with rfl | ⟨spot, passage, -, rfl⟩ | ⟨user, rfl, rfl⟩ | rfl | ⟨kept, -, rfl⟩
  · exact good
  · exact good.perform _ _ _
  · exact Strand.steady_visit _ _
  · exact good.expire _
  · exact .finished (Strand.isOver_abandon _ _)

theorem finished_of_all (promising : errand.Promising moment.system)
    (ended : errand.strands.all moment.system.isOver = true) : errand.Finished moment.system := by
  intro position member
  obtain ⟨strand, found, -⟩ := promising position member
  have finished := List.all_eq_true.1 ended position member
  rw [System.isOver, found] at finished
  exact ⟨strand, found, finished⟩

/-- The strands of queued users can be brought to their end. -/
theorem promising_of_queued {users : List UserKey}
    (strands : moment.next.strands = moment.system.strands ++ users.map .queued)
    (audience : Audience) : (Errand.mk audience moment.begun).Promising moment.next := by
  intro position member
  simp only [Moment.begun, strands, List.length_append, Nat.add_sub_cancel_left,
    List.mem_range'_1] at member
  obtain ⟨index, rfl⟩ := Nat.exists_eq_add_of_le member.1
  have inside : index < users.length := by
    rw [List.length_map] at member
    omega
  refine ⟨.queued users[index], ?_, .queued _⟩
  rw [strands, List.getElem?_append_right (Nat.le_add_right _ _), Nat.add_sub_cancel_left,
    List.getElem?_map, List.getElem?_eq_getElem inside, Option.map_some]

/-- The strands with which a worker begins a change can be brought to their end. -/
theorem promising_begun {post : Nat} {worker : Worker} {audience : Audience}
    (event : moment.event = .proceed post)
    (found : moment.system.workers[post]? = some worker)
    (upcoming : worker.upcoming? = some audience) :
    (Errand.mk audience moment.begun).Promising moment.next := by
  obtain ⟨system, _⟩ := moment
  cases event
  refine @promising_of_queued _ (audience.members system.board.presence) ?_ audience
  rw [Moment.next, System.step_proceed found, upcoming]
  rfl

end Errand

namespace Worker

/-- How a worker stands to the changes that it has taken up. -/
inductive Stands (system : System) (errands : List Errand) (worker : Worker) : Prop
  /-- It is free, and everything is finished and counted. -/
  | free (current : worker.current = none) (counted : worker.processed = errands.length)
    (finished : ∀ errand ∈ errands, errand.Finished system)
  /-- It is busy with the last of them, and everything else is finished and counted. -/
  | busy (earlier : List Errand) (errand : Errand) (last : errands = earlier ++ [errand])
    (current : worker.current = some errand.strands) (counted : worker.processed = earlier.length)
    (finished : ∀ errand ∈ earlier, errand.Finished system) (promising : errand.Promising system)

/-- A worker that keeps to its queue. -/
structure Keeps (system : System) (accepted : List Audience) (errands : List Errand)
    (worker : Worker) : Prop where
  /-- What was accepted was taken up, in this order, or is queued. -/
  order : accepted = errands.map Errand.audience ++ worker.queue
  /-- How it stands to what it has taken up. -/
  stands : worker.Stands system errands
  /-- It leaves when nothing is queued and nobody can send any more. -/
  gone : worker.hasLeft = true →
    worker.isOpen = false ∧ worker.queue = [] ∧ worker.current = none

theorem keeps_fresh (system : System) : fresh.Keeps system [] [] where
  order := rfl
  stands := .free rfl rfl nofun
  gone := nofun

variable {moment : Moment} {post : Nat} {worker : Worker} {accepted : List Audience}
  {errands : List Errand}

/-- Other workers and requests make no difference to how a worker stands. -/
theorem Stands.mono (stands : worker.Stands moment.system errands) {worker' : Worker}
    (current : worker'.current = worker.current)
    (processed : worker'.processed = worker.processed) : worker'.Stands moment.next errands := by
  cases stands with
  | free free counted finished =>
      exact .free (current.trans free) (processed.trans counted)
        fun errand member => (finished errand member).next
  | busy earlier errand last busy counted finished promising =>
      exact .busy earlier errand last (current.trans busy) (processed.trans counted)
        (fun errand member => (finished errand member).next) promising.next

theorem Keeps.foreign (keeps : worker.Keeps moment.system accepted errands) :
    worker.Keeps moment.next accepted errands :=
  ⟨keeps.order, keeps.stands.mono rfl rfl, keeps.gone⟩

/-- A change for which there is room is queued. -/
theorem Keeps.offer (keeps : worker.Keeps moment.system accepted errands) (capacity : Nat)
    (audience : Audience) :
    (worker.offer capacity audience).Keeps moment.next
      (accepted ++ if worker.hasRoom capacity then [audience] else []) errands := by
  unfold Worker.offer
  split
  · rename_i room
    refine ⟨?_, keeps.stands.mono rfl rfl, fun left => ?_⟩
    · rw [keeps.order, List.append_assoc]
    · have closed := (keeps.gone left).1
      simp [hasRoom, closed] at room
  · rw [List.append_nil]
    exact keeps.foreign

theorem Keeps.close (keeps : worker.Keeps moment.system accepted errands) :
    worker.close.Keeps moment.next accepted errands where
  order := keeps.order
  stands := keeps.stands.mono rfl rfl
  gone := fun left => ⟨rfl, (keeps.gone left).2⟩

/-- A worker that goes on finishes a change, takes up the next one, or leaves. -/
theorem Keeps.goOn (keeps : worker.Keeps moment.system accepted errands)
    (event : moment.event = .proceed post) (found : moment.system.workers[post]? = some worker) :
    (worker.goOn moment.system moment.begun).Keeps moment.next accepted
      (errands ++ (worker.upcoming?.map (Errand.mk · moment.begun)).toList) := by
  obtain ⟨queue, isOpen, current, processed, hasLeft⟩ := worker
  have order := keeps.order
  have gone := keeps.gone
  cases current with
  | some strands =>
      simp only [Worker.goOn, upcoming?, Option.map_none, Option.toList_none, List.append_nil]
      split
      · rename_i ended
        refine ⟨order, ?_, fun left => absurd (gone left).2.2 (Option.some_ne_none _)⟩
        cases keeps.stands with
        | free current counted finished => cases current
        | busy earlier errand last current counted finished promising =>
            cases current
            refine .free rfl (by simpa [last] using counted) fun other member => ?_
            rw [last, List.mem_append, List.mem_singleton] at member
            rcases member with before | rfl
            · exact (finished other before).next
            · exact (Errand.finished_of_all promising ended).next
      · exact keeps.foreign
  | none =>
      cases keeps.stands with
      | busy earlier errand last current counted finished promising => cases current
      | free current counted finished =>
          cases queue with
          | cons audience rest =>
              have promising := Errand.promising_begun event found rfl
              refine ⟨?_, ?_, fun left => absurd (gone left).2.1 (List.cons_ne_nil _ _)⟩
              · simpa [goOn, upcoming?] using order
              · exact .busy errands ⟨audience, moment.begun⟩ rfl rfl counted
                  (fun errand member => (finished errand member).next) promising
          | nil =>
              simp only [Worker.goOn, upcoming?, Option.map_none, Option.toList_none,
                List.append_nil]
              split
              · exact keeps.foreign
              · rename_i closed
                exact ⟨order, keeps.stands.mono rfl rfl,
                  fun _ => ⟨Bool.eq_false_iff.2 closed, rfl, rfl⟩⟩

/-- When a worker is free, everything that it took up is finished and counted. -/
theorem Stands.of_free {system : System} (stands : worker.Stands system errands)
    (idle : worker.current = none) :
    worker.processed = errands.length ∧ ∀ errand ∈ errands, errand.Finished system := by
  cases stands with
  | free _ counted finished => exact ⟨counted, finished⟩
  | busy _ _ _ current => exact nomatch idle.symm.trans current

/-- A worker takes up a change only when it is free. -/
theorem current_of_upcoming {audience : Audience} (upcoming : worker.upcoming? = some audience) :
    worker.current = none := by
  unfold upcoming? at upcoming
  split at upcoming
  · assumption
  · cases upcoming

/-- Whatever happens, a worker keeps to its queue. -/
theorem Keeps.next (keeps : worker.Keeps moment.system accepted errands)
    (found : moment.system.workers[post]? = some worker) :
    (worker.after post moment).Keeps moment.next (accepted ++ (moment.accepted? post).toList)
      (errands ++ (moment.takenUp? post).toList) := by
  obtain ⟨system, event⟩ := moment
  have foreign (accepts : Moment.accepted? post ⟨system, event⟩ = none)
      (takes : Moment.takenUp? post ⟨system, event⟩ = none)
      (same : worker.after post ⟨system, event⟩ = worker) :
      (worker.after post ⟨system, event⟩).Keeps (Moment.next ⟨system, event⟩)
        (accepted ++ (Moment.accepted? post ⟨system, event⟩).toList)
        (errands ++ (Moment.takenUp? post ⟨system, event⟩).toList) := by
    rw [accepts, takes, same, Option.toList_none, Option.toList_none, List.append_nil,
      List.append_nil]
    exact keeps.foreign
  cases event with
  | offer other audience =>
      by_cases here : other = post
      · subst here
        have offered := keeps.offer system.board.queueCapacity audience
        have accepts : (Moment.accepted? other ⟨system, .offer other audience⟩).toList =
            if worker.hasRoom system.board.queueCapacity then [audience] else [] := by
          simp only [Moment.accepted?, Moment.hasRoom, Moment.offered?, found, Option.any_some,
            if_true]
          split <;> rfl
        simp only [after, if_true, accepts, Moment.takenUp?, Option.toList_none, List.append_nil]
        exact offered
      · exact foreign (Moment.accepted?_of_silent (if_neg here)) rfl (if_neg here)
  | dismiss other =>
      by_cases here : other = post
      · subst here
        have silent : Moment.accepted? other ⟨system, .dismiss other⟩ = none :=
          Moment.accepted?_of_silent rfl
        simp only [after, if_true, silent, Moment.takenUp?, Option.toList_none, List.append_nil]
        exact keeps.close
      · exact foreign (Moment.accepted?_of_silent rfl) rfl (if_neg here)
  | proceed other =>
      by_cases here : other = post
      · subst here
        have silent : Moment.accepted? other ⟨system, .proceed other⟩ = none :=
          Moment.accepted?_of_silent rfl
        simp only [after, if_true, silent, Moment.takenUp?, found, Option.bind_some,
          Option.toList_none, List.append_nil]
        exact keeps.goOn rfl found
      · exact foreign (Moment.accepted?_of_silent rfl) (if_neg here) (if_neg here)
  | _ => exact foreign (Moment.accepted?_of_silent rfl) rfl rfl

end Worker

/-- An event by which a worker and the strands of its changes go on. -/
inductive Event.Drives (post : Nat) : Event → Prop
  /-- The worker goes on. -/
  | proceed : Drives post (.proceed post)
  /-- A strand goes on. -/
  | advance {position : Nat} {event : Event} (advances : event.Advances position) :
    Drives post event

namespace System

variable {system : System} {post : Nat} {worker : Worker} {accepted : List Audience}
  {taken : List Errand}

/-- From one moment to the next, a worker keeps to its queue all along. -/
theorem keeps_run (found : system.workers[post]? = some worker)
    (keeps : worker.Keeps system accepted taken) (events : List Event) :
    ∃ later, (system.run events).workers[post]? = some later ∧
      later.Keeps (system.run events) (accepted ++ acceptances post (system.moments events))
        (taken ++ errands post (system.moments events)) := by
  induction events generalizing system worker accepted taken with
  | nil => exact ⟨worker, found, by simpa [acceptances, errands, moments] using keeps⟩
  | cons event rest induction =>
      have found' := @Moment.worker_next ⟨system, event⟩ post worker found
      have keeps' := @Worker.Keeps.next ⟨system, event⟩ post worker accepted taken keeps found
      obtain ⟨later, present, kept⟩ := induction found' keeps'
      refine ⟨later, present, ?_⟩
      have cons {α : Type} (view : Moment → Option α) :
          (system.moments (event :: rest)).filterMap view =
            (view ⟨system, event⟩).toList ++ ((system.step event).moments rest).filterMap view := by
        cases seen : view ⟨system, event⟩ <;> simp [moments, seen]
      rw [acceptances, errands, cons, cons, ← List.append_assoc, ← List.append_assoc]
      exact kept

/-- A run in which a worker goes on can be followed by its going on once more. -/
theorem drives_concat {events : List Event} (drives : ∀ event ∈ events, event.Drives post) :
    ∀ event ∈ events ++ [.proceed post], event.Drives post :=
  List.forall_mem_append.2 ⟨drives, List.forall_mem_singleton.2 .proceed⟩

/-- A busy worker can be brought to be free. -/
theorem exists_free (found : system.workers[post]? = some worker)
    (keeps : worker.Keeps system accepted taken) :
    ∃ events free, (∀ event ∈ events, event.Drives post) ∧
      (system.run events).workers[post]? = some free ∧ free.current = none ∧
      free.queue = worker.queue ∧ free.isOpen = worker.isOpen := by
  cases keeps.stands with
  | free current counted finished => exact ⟨[], worker, nofun, found, current, rfl, rfl⟩
  | busy earlier errand last current counted finished promising =>
      obtain ⟨events, advances, workers, ended⟩ := exists_finish_all promising
      have found' : (system.run events).workers[post]? = some worker := workers ▸ found
      have finished : errand.strands.all (system.run events).isOver = true :=
        List.all_eq_true.2 fun position member => (ended position member).isOver
      have freed : worker.after post ⟨system.run events, .proceed post⟩ =
          { worker with current := none, processed := worker.processed + 1 } := by
        simp only [Worker.after, if_true, Worker.goOn, current, finished]
      have next := freed ▸ worker_run_concat found' (.proceed post)
      refine ⟨events ++ [.proceed post],
        { worker with current := none, processed := worker.processed + 1 },
        drives_concat fun event member => ?_, next, rfl, rfl, rfl⟩
      obtain ⟨position, -, moves⟩ := advances event member
      exact .advance moves

/-- A worker that goes on alone can be brought to have taken up and finished everything. -/
theorem exists_drained (found : system.workers[post]? = some worker)
    (keeps : worker.Keeps system accepted taken) :
    ∃ events drained, (∀ event ∈ events, event.Drives post) ∧
      (system.run events).workers[post]? = some drained ∧ drained.current = none ∧
      drained.queue = [] ∧ drained.isOpen = worker.isOpen := by
  induction queue : worker.queue generalizing system worker accepted taken with
  | nil =>
      obtain ⟨events, free, drives, present, current, same, closed⟩ := exists_free found keeps
      exact ⟨events, free, drives, present, current, same.trans queue, closed⟩
  | cons audience rest induction =>
      obtain ⟨events, free, drives, present, current, same, closed⟩ := exists_free found keeps
      obtain ⟨later, present', keeps'⟩ := keeps_run found keeps (events ++ [.proceed post])
      have busy : free.after post ⟨system.run events, .proceed post⟩ =
          { free with
            current := some (Moment.begun ⟨system.run events, .proceed post⟩)
            queue := rest } := by
        simp only [Worker.after, if_true, Worker.goOn, current, same, queue]
      have next := busy ▸ worker_run_concat present (.proceed post)
      obtain rfl := Option.some.inj (next.symm.trans present')
      obtain ⟨events', drained, drives', present'', done, empty, closed'⟩ :=
        induction present' keeps' rfl
      exact ⟨events ++ [.proceed post] ++ events', drained,
        List.forall_mem_append.2 ⟨drives_concat drives, drives'⟩, run_append .. ▸ present'', done,
        empty, closed'.trans closed⟩

/-- A worker to whom nobody can send any more can be brought to leave. -/
theorem exists_gone (found : system.workers[post]? = some worker)
    (keeps : worker.Keeps system accepted taken) (closed : worker.isOpen = false) :
    ∃ events gone, (∀ event ∈ events, event.Drives post) ∧
      (system.run events).workers[post]? = some gone ∧ gone.hasLeft = true := by
  obtain ⟨events, drained, drives, present, done, empty, same⟩ := exists_drained found keeps
  have leaves : drained.after post ⟨system.run events, .proceed post⟩ =
      { drained with hasLeft := true } := by
    simp only [Worker.after, if_true, Worker.goOn, done, empty, same, closed]
    rfl
  have next := leaves ▸ worker_run_concat present (.proceed post)
  exact ⟨events ++ [.proceed post], { drained with hasLeft := true }, drives_concat drives, next,
    rfl⟩

/-- Nothing is sent while the worker goes on alone. -/
theorem silent_of_drives (system : System) {events : List Event}
    (drives : ∀ event ∈ events, event.Drives post) :
    offers post (system.moments events) = [] := by
  refine List.filterMap_eq_nil_iff.2 fun moment member => ?_
  have drive := drives _ (event_mem_of_moments member)
  obtain ⟨system', event⟩ := moment
  cases drive with
  | proceed => rfl
  | advance advances => cases advances <;> rfl

/-- Whoever waits until there is room can send anything to a worker. -/
theorem exists_awaited (found : system.workers[post]? = some worker)
    (keeps : worker.Keeps system accepted taken) (awaits : worker.isOpen = true)
    (changes : List Audience) :
    ∃ events, (∀ event ∈ events, event.Drives post ∨ ∃ audience, event = .offer post audience) ∧
      offers post (system.moments events) = changes ∧
      acceptances post (system.moments events) = changes := by
  induction changes generalizing system worker accepted taken with
  | nil => exact ⟨[], nofun, rfl, rfl⟩
  | cons audience rest induction =>
      obtain ⟨events, drained, drives, present, done, empty, same⟩ := exists_drained found keeps
      have room : drained.hasRoom (system.run events).board.queueCapacity = true := by
        simp [Worker.hasRoom, empty, same, awaits, Switchboard.queueCapacity_pos]
      have sends : Moment.offered? post ⟨system.run events, .offer post audience⟩ = some audience :=
        if_pos rfl
      have accepts : Moment.accepted? post ⟨system.run events, .offer post audience⟩ =
          some audience := by
        simp only [Moment.accepted?, Moment.hasRoom, present, Option.any_some, room, if_true, sends]
      have queued : drained.after post ⟨system.run events, .offer post audience⟩ =
          { drained with queue := drained.queue ++ [audience] } := by
        simp only [Worker.after, if_true, Worker.offer, room]
      obtain ⟨later, present', keeps'⟩ := keeps_run found keeps (events ++ [.offer post audience])
      have next := queued ▸ worker_run_concat present (.offer post audience)
      obtain rfl := Option.some.inj (next.symm.trans present')
      obtain ⟨events', moves, offered, taken'⟩ := induction present' keeps' (same.trans awaits)
      have unsent := silent_of_drives system drives
      refine ⟨events ++ [.offer post audience] ++ events', fun event member => ?_, ?_, ?_⟩
      · simp only [List.mem_append, List.mem_singleton] at member
        rcases member with (among | rfl) | among
        · exact .inl (drives event among)
        · exact .inr ⟨audience, rfl⟩
        · exact moves event among
      · rw [moments_append, moments_concat, offers_append, offers_append, unsent, offered,
          offers_singleton, sends]
        rfl
      · rw [moments_append, moments_concat, acceptances_append, acceptances_append,
          acceptances_of_silent unsent, taken', acceptances_singleton, accepts]
        rfl

/-- The capacity of queues does not change. -/
theorem queueCapacity_run (system : System) (events : List Event) :
    (system.run events).board.queueCapacity = system.board.queueCapacity := by
  induction events generalizing system with
  | nil => rfl
  | cons event rest induction =>
      rw [run_cons, induction, step_board]
      rfl

/-- One more change is queued if the queue is not full. -/
theorem offer_waiting (changes : List Audience) (capacity : Nat) (audience : Audience) :
    (Worker.waiting (changes.take capacity)).offer capacity audience =
      .waiting ((changes ++ [audience]).take capacity) := by
  have space : (Worker.waiting (changes.take capacity)).hasRoom capacity =
      decide (min capacity changes.length < capacity) := by
    rw [← List.length_take]
    exact Bool.true_and _
  rw [List.take_append, Worker.offer, space]
  by_cases room : changes.length < capacity
  · obtain ⟨spare, rest⟩ : ∃ spare, capacity - changes.length = spare + 1 :=
      ⟨capacity - changes.length - 1, by omega⟩
    rw [if_pos (decide_eq_true (by omega)), rest, List.take_succ_cons, List.take_nil]
    rfl
  · rw [if_neg (by simpa using room), Nat.sub_eq_zero_of_le (Nat.le_of_not_lt room), List.take_zero,
      List.append_nil]

/-- What is sent before a worker has taken up anything is accepted until its queue is full. -/
theorem queue_of_untouched {events : List Event}
    (untouched : ∀ event ∈ events, event ≠ .proceed post ∧ event ≠ .dismiss post)
    (found : system.workers[post]? = some .fresh) :
    (system.run events).workers[post]? =
      some (.waiting ((offers post (system.moments events)).take system.board.queueCapacity)) := by
  induction events using List.reverseRecOn with
  | nil =>
      rw [moments, offers, List.filterMap_nil, List.take_nil]
      exact found
  | append_singleton events event induction =>
      have before := induction fun other member => untouched other (List.mem_append_left _ member)
      have spared := untouched event (List.mem_append_right _ List.mem_cons_self)
      refine (worker_run_concat before event).trans (congrArg some ?_)
      rw [moments_concat, offers_append, offers_singleton]
      cases event with
      | offer other audience =>
          by_cases here : other = post
          · simp only [Worker.after, Moment.offered?, here, if_true, queueCapacity_run]
            exact offer_waiting _ _ _
          · simp [Worker.after, Moment.offered?, here]
      | dismiss other =>
          have apart : other ≠ post := fun same => spared.2 (same ▸ rfl)
          simp [Worker.after, Moment.offered?, apart]
      | proceed other =>
          have apart : other ≠ post := fun same => spared.1 (same ▸ rfl)
          simp [Worker.after, Moment.offered?, apart]
      | _ => simp [Worker.after, Moment.offered?]

/-- What is accepted before a worker has taken up anything is what its queue can hold. -/
theorem acceptances_of_untouched {events : List Event}
    (untouched : ∀ event ∈ events, event ≠ .proceed post ∧ event ≠ .dismiss post)
    (found : system.workers[post]? = some .fresh) :
    acceptances post (system.moments events) =
      (offers post (system.moments events)).take system.board.queueCapacity := by
  obtain ⟨worker, present, keeps⟩ := keeps_run found (Worker.keeps_fresh system) events
  obtain rfl := Option.some.inj (present.symm.trans (queue_of_untouched untouched found))
  have idle : errands post (system.moments events) = [] :=
    List.filterMap_eq_nil_iff.2 fun moment member => by
      have spared := (untouched _ (event_mem_of_moments member)).1
      obtain ⟨system', event⟩ := moment
      cases event with
      | proceed other => exact if_neg fun same : other = post => spared (same ▸ rfl)
      | _ => rfl
  have order := keeps.order
  rw [idle] at order
  exact order

end System
end ChannelMembership
