import ChannelMembership.Proofs.Switchboard.Completion

/-!
# What a worker does

A worker takes up the changes that were accepted, in their order, and it does so by making the
requests that somebody without a worker would make.  So a history in which a worker is employed
shows the same shared state and the same strands, moment by moment, as one in which the worker idles
and each change is requested when the worker would take it up.
-/

namespace ChannelMembership

theorem set_modify_self {α : Type} (list : List α) (position : Nat) (change : α → α) (value : α) :
    (list.modify position change).set position value = list.set position value := by
  refine List.ext_getElem? fun other => ?_
  by_cases here : position = other <;> simp [List.getElem?_set, here]

theorem set_modify_of_ne {α : Type} (list : List α) {first second : Nat} (apart : first ≠ second)
    (change : α → α) (value : α) :
    (list.modify first change).set second value = (list.set second value).modify first change := by
  refine List.ext_getElem? fun position => ?_
  by_cases here : second = position
  · subst here
    simp [List.getElem?_set, apart]
  · simp [List.getElem?_modify, here]

/-- A change that a worker has taken up. -/
structure Errand where
  /-- Whom the change concerns. -/
  audience : Audience
  /-- Its strands. -/
  strands : List Nat

/-- Whether an event is for the worker at a post. -/
def Event.addresses (post : Nat) : Event → Bool
  | offer other _ => other = post
  | dismiss other => other = post
  | proceed other => other = post
  | _ => false

namespace Worker

/-- The change that the worker takes up when it goes on. -/
def upcoming? (worker : Worker) : Option Audience :=
  match worker.current, worker.queue with
  | none, audience :: _ => some audience
  | _, _ => none

/-- The worker after it went on, with the strands that it has begun. -/
def goOn (worker : Worker) (system : System) (begun : List Nat) : Worker :=
  match worker.current, worker.queue with
  | some strands, _ =>
    if strands.all system.isOver then
      { worker with current := none, processed := worker.processed + 1 }
    else worker
  | none, _ :: rest => { worker with current := some begun, queue := rest }
  | none, [] => if worker.isOpen then worker else { worker with hasLeft := true }

end Worker

namespace Moment

/-- The change that is sent to a worker. -/
def offered? (post : Nat) (moment : Moment) : Option Audience :=
  match moment.event with
  | .offer other audience => if other = post then some audience else none
  | _ => none

/-- Whether a change can be sent to a worker. -/
def hasRoom (post : Nat) (moment : Moment) : Bool :=
  (moment.system.workers[post]?).any (Worker.hasRoom · moment.system.board.queueCapacity)

/-- The change that is sent to a worker and not turned away. -/
def accepted? (post : Nat) (moment : Moment) : Option Audience :=
  if moment.hasRoom post then moment.offered? post else none

/-- The strands that begin at the moment. -/
def begun (moment : Moment) : List Nat :=
  List.range' moment.system.strands.length
    (moment.next.strands.length - moment.system.strands.length)

/-- The change that a worker takes up. -/
def takenUp? (post : Nat) (moment : Moment) : Option Errand :=
  match moment.event with
  | .proceed other =>
    if other = post then
      ((moment.system.workers[post]?).bind Worker.upcoming?).map (Errand.mk · moment.begun)
    else none
  | _ => none

end Moment

namespace System

/-- The system as it would be if the worker at a post were idle. -/
def idling (system : System) (post : Nat) : System :=
  { system with workers := system.workers.set post .fresh }

variable {system : System} {post : Nat} {worker : Worker}

/-- What happens when a worker goes on. -/
theorem step_proceed (found : system.workers[post]? = some worker) :
    system.step (.proceed post) =
      { (worker.upcoming?.elim system fun audience => system.submit (.change audience)) with
        workers := system.workers.set post
          (worker.goOn system (Moment.begun ⟨system, .proceed post⟩)) } := by
  obtain ⟨inside, same⟩ := List.getElem?_eq_some_iff.1 found
  have unmoved : system.workers.set post worker = system.workers := by
    rw [← same, List.set_getElem_self inside]
  have begun : Moment.begun ⟨system, .proceed post⟩ = List.range' system.strands.length
      ((system.proceed post worker).strands.length - system.strands.length) := by
    simp only [Moment.begun, Moment.next, step, found]
  simp only [step, found, begun]
  obtain ⟨queue, isOpen, current, processed, hasLeft⟩ := worker
  cases current with
  | some strands =>
      simp only [proceed, Worker.upcoming?, Worker.goOn, Option.elim_none]
      split
      · rfl
      · rw [unmoved]
  | none =>
      cases queue with
      | cons audience rest => rfl
      | nil =>
          simp only [proceed, Worker.upcoming?, Worker.goOn, Option.elim_none]
          split
          · rw [unmoved]
          · rfl

end System

namespace Moment

/-- The moment as it would be if the worker at a post were idle and every change that the worker
takes up were requested instead. -/
def direct? (post : Nat) (moment : Moment) : Option Moment :=
  match moment.takenUp? post with
  | some errand => some ⟨moment.system.idling post, .submit (.change errand.audience)⟩
  | none =>
    if moment.event.addresses post then none
    else some ⟨moment.system.idling post, moment.event⟩

end Moment

/-- A worker after a moment. -/
def Worker.after (worker : Worker) (post : Nat) (moment : Moment) : Worker :=
  match moment.event with
  | .offer other audience =>
    if other = post then worker.offer moment.system.board.queueCapacity audience else worker
  | .dismiss other => if other = post then worker.close else worker
  | .proceed other => if other = post then worker.goOn moment.system moment.begun else worker
  | _ => worker

namespace Moment

variable {moment : Moment} {post : Nat} {worker : Worker}

theorem worker_next (found : moment.system.workers[post]? = some worker) :
    moment.next.workers[post]? = some (worker.after post moment) := by
  obtain ⟨system, event⟩ := moment
  have inside : post < system.workers.length := (List.getElem?_eq_some_iff.1 found).1
  cases event with
  | hire => exact (List.getElem?_append_left inside).trans found
  | offer other audience =>
      simp only [next, System.step, List.getElem?_modify, Worker.after, found]
      split <;> rfl
  | dismiss other =>
      simp only [next, System.step, List.getElem?_modify, Worker.after, found]
      split <;> rfl
  | proceed other =>
      by_cases here : other = post
      · subst here
        simp only [next, System.step_proceed found, Worker.after, if_true]
        exact List.getElem?_set_self inside
      · simp only [Worker.after, if_neg here]
        cases present : system.workers[other]? with
        | none => simpa only [next, System.step, present] using found
        | some colleague =>
            simp only [next, System.step_proceed present]
            exact (List.getElem?_set_ne here).trans found
  | submit request => exact found
  | visit position => simp only [next, System.step]; split <;> exact found
  | perform position spot passage => simp only [next, System.step]; split <;> exact found
  | expire position => simp only [next, System.step]; split <;> exact found
  | abandon position kept =>
      simp only [next, System.step]
      split
      · split <;> exact found
      · exact found
  | resume => simp only [next, System.step]; split <;> exact found
  | _ => exact found

theorem direct?_of_foreign (foreign : moment.event.addresses post = false) :
    moment.direct? post = some ⟨moment.system.idling post, moment.event⟩ := by
  have nothing : moment.takenUp? post = none := by
    unfold takenUp?
    split
    · rename_i other event
      rw [event] at foreign
      exact if_neg (of_decide_eq_false foreign)
    · rfl
  rw [direct?, nothing, foreign]
  rfl

/-- What a worker takes up when it goes on. -/
theorem takenUp?_proceed {system : System} (found : system.workers[post]? = some worker) :
    takenUp? post ⟨system, .proceed post⟩ =
      worker.upcoming?.map (Errand.mk · (begun ⟨system, .proceed post⟩)) := by
  simp only [takenUp?, if_true, found, Option.bind_some]

/-- A worker that takes up a change does to the others what a request does. -/
theorem direct?_of_takenUp? {errand : Errand} (taken : moment.takenUp? post = some errand) :
    moment.direct? post = some ⟨moment.system.idling post, .submit (.change errand.audience)⟩ := by
  rw [direct?, taken]

/-- A worker to which something happens while it takes up nothing does nothing to the others. -/
theorem direct?_of_addressed (nothing : moment.takenUp? post = none)
    (mine : moment.event.addresses post = true) : moment.direct? post = none := by
  rw [direct?, nothing, mine]
  rfl

end Moment

namespace System

/-- A worker after one more event. -/
theorem worker_run_concat {system : System} {events : List Event} {post : Nat} {worker : Worker}
    (found : (system.run events).workers[post]? = some worker) (event : Event) :
    (system.run (events ++ [event])).workers[post]? =
      some (worker.after post ⟨system.run events, event⟩) := by
  rw [run_concat]
  exact @Moment.worker_next ⟨system.run events, event⟩ post worker found

/-- Events that are not for a worker do not depend on it. -/
theorem step_idling {system : System} {post : Nat} (inside : post < system.workers.length)
    {event : Event} (foreign : event.addresses post = false) :
    (system.step event).idling post = (system.idling post).step event := by
  have apart {other : Nat} (foreign : decide (other = post) = false) : other ≠ post :=
    of_decide_eq_false foreign
  cases event with
  | hire => simp only [step, idling, List.set_append_left _ _ inside]
  | offer other audience => simp only [step, idling, set_modify_of_ne _ (apart foreign)]
  | dismiss other => simp only [step, idling, set_modify_of_ne _ (apart foreign)]
  | proceed other =>
      have same : (system.idling post).workers[other]? = system.workers[other]? :=
        List.getElem?_set_ne (Ne.symm (apart foreign))
      cases found : system.workers[other]? with
      | none => simp only [step, same, found]
      | some colleague =>
          have strands : ((system.idling post).step (.proceed other)).strands =
              (system.step (.proceed other)).strands := by
            rw [step_proceed found, step_proceed (same.trans found)]
            cases colleague.upcoming? <;> rfl
          have begun : Moment.begun ⟨system.idling post, .proceed other⟩ =
              Moment.begun ⟨system, .proceed other⟩ := by
            simp only [Moment.begun, Moment.next, strands]
            rfl
          rw [step_proceed found, step_proceed (same.trans found), begun]
          simp only [idling, List.set_comm _ _ (apart foreign)]
          cases colleague.upcoming? <;> rfl
  | visit position =>
      simp only [step, idling]
      split <;> rfl
  | perform position spot passage =>
      simp only [step, idling]
      split <;> rfl
  | expire position =>
      simp only [step, idling]
      split <;> rfl
  | abandon position kept =>
      simp only [step, idling]
      split
      · split <;> rfl
      · rfl
  | resume =>
      simp only [step, idling]
      split <;> rfl
  | _ => rfl

/-- A worker that goes on makes a request or does nothing to the others. -/
theorem step_addressed {system : System} {post : Nat} {worker : Worker} {event : Event}
    (found : system.workers[post]? = some worker) (mine : event.addresses post = true) :
    (system.step event).idling post =
      (Moment.takenUp? post ⟨system, event⟩).elim (system.idling post) fun errand =>
        (system.idling post).step (.submit (.change errand.audience)) := by
  cases event with
  | offer other audience =>
      obtain rfl := of_decide_eq_true mine
      simp only [step, idling, set_modify_self]
      rfl
  | dismiss other =>
      obtain rfl := of_decide_eq_true mine
      simp only [step, idling, set_modify_self]
      rfl
  | proceed other =>
      obtain rfl := of_decide_eq_true mine
      rw [step_proceed found]
      simp only [Moment.takenUp?, if_true, found, Option.bind_some, idling, List.set_set]
      cases worker.upcoming? <;> rfl
  | _ => cases mine

end System

namespace Moment

variable {moment : Moment} {post : Nat} {worker : Worker}

/-- What is done at a moment is what is done in its place while the worker idles. -/
theorem idling_next (found : moment.system.workers[post]? = some worker) :
    moment.next.idling post = (moment.direct? post).elim (moment.system.idling post) next := by
  cases mine : moment.event.addresses post with
  | false =>
      rw [direct?_of_foreign mine]
      exact System.step_idling (List.getElem?_eq_some_iff.1 found).1 mine
  | true =>
      refine (System.step_addressed found mine).trans ?_
      cases taken : moment.takenUp? post with
      | none =>
          rw [direct?_of_addressed taken mine]
          rfl
      | some errand =>
          rw [direct?_of_takenUp? taken]
          rfl

theorem system_of_direct? {direct : Moment} (replaced : moment.direct? post = some direct) :
    direct.system = moment.system.idling post := by
  unfold direct? at replaced
  split at replaced
  · cases replaced
    rfl
  · split at replaced
    · cases replaced
    · cases replaced
      rfl

/-- The strands that begin are those that begin without the worker. -/
theorem begun_of_direct? (found : moment.system.workers[post]? = some worker) {direct : Moment}
    (replaced : moment.direct? post = some direct) : direct.begun = moment.begun := by
  have next := idling_next found
  rw [replaced, Option.elim_some] at next
  rw [begun, begun, ← next, system_of_direct? replaced]
  rfl

end Moment

namespace System

/-- What happens directly in a history in which a worker is employed: the worker idles, and its
changes are requested when it takes them up. -/
def directly (system : System) (post : Nat) (events : List Event) : List Event :=
  ((system.moments events).filterMap (Moment.direct? post)).map Moment.event

/-- The histories with and without the worker agree moment by moment. -/
theorem direct_history {system : System} {post : Nat} {worker : Worker}
    (found : system.workers[post]? = some worker) (events : List Event) :
    (system.idling post).moments (system.directly post events) =
        (system.moments events).filterMap (Moment.direct? post) ∧
      (system.idling post).run (system.directly post events) = (system.run events).idling post := by
  induction events generalizing system worker with
  | nil => exact ⟨rfl, rfl⟩
  | cons event rest induction =>
      have next := @Moment.idling_next ⟨system, event⟩ post worker found
      have later := induction (@Moment.worker_next ⟨system, event⟩ post worker found)
      simp only [directly, moments, run_cons]
      cases replaced : Moment.direct? post ⟨system, event⟩ with
      | none =>
          rw [replaced, Option.elim_none] at next
          simp only [List.filterMap_cons_none replaced]
          rw [← next]
          exact later
      | some direct =>
          rw [replaced, Option.elim_some] at next
          simp only [List.filterMap_cons_some replaced, List.map_cons, moments, run_cons]
          obtain ⟨system', event'⟩ := direct
          obtain rfl : system' = system.idling post := Moment.system_of_direct? replaced
          have following : (system.idling post).step event' = (system.step event).idling post :=
            next.symm
          rw [following]
          exact ⟨congrArg (List.cons _) later.1, later.2⟩

end System
end ChannelMembership
