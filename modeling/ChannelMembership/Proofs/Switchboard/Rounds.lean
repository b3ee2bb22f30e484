import ChannelMembership.Proofs.Switchboard.Diligence

/-!
# Changes that are requested one after another

Whoever has no worker requests a change, waits until all its strands are over, and only then
requests the next one.  A worker to which each change is sent in its turn does the same: it takes
the change up where it would have been requested, and it is free again at the end of the round.
-/

namespace ChannelMembership

/-- A change, and what happens until it is over. -/
structure Round where
  /-- Whom the change concerns. -/
  audience : Audience
  /-- What happens after it was requested. -/
  meanwhile : List Event

namespace Round

/-- The round without a worker. -/
def events (round : Round) : List Event :=
  .submit (.change round.audience) :: round.meanwhile

/-- The round with a worker, which takes the change up and sees that it is over. -/
def employing (post : Nat) (round : Round) : List Event :=
  [.offer post round.audience, .proceed post] ++ round.meanwhile ++ [.proceed post]

/-- The change is finished at the end of the round, and nobody else turns to the worker. -/
structure Complete (post : Nat) (system : System) (round : Round) : Prop where
  /-- What happens meanwhile is not for the worker. -/
  foreign : ∀ event ∈ round.meanwhile, event.addresses post = false
  /-- All strands of the change are over in the end. -/
  finished : ∀ position ∈ Moment.begun ⟨system, .submit (.change round.audience)⟩,
    (system.run round.events).Finished position

end Round

/-- Every change is finished before the next one is requested. -/
def System.Consecutive (post : Nat) : System → List Round → Prop
  | _, [] => True
  | system, round :: rest =>
    round.Complete post system ∧ Consecutive post (system.run round.events) rest

/-- A worker that is free. -/
def Worker.ready (count : Nat) : Worker := ⟨[], true, none, count, false⟩

theorem Moment.accepted?_of_foreign {post : Nat} {moment : Moment}
    (foreign : moment.event.addresses post = false) : moment.accepted? post = none := by
  refine accepted?_of_silent ?_
  obtain ⟨system, event⟩ := moment
  cases event with
  | offer other audience => exact if_neg (of_decide_eq_false foreign)
  | _ => rfl

theorem Worker.after_of_foreign {post : Nat} {moment : Moment} (worker : Worker)
    (foreign : moment.event.addresses post = false) : worker.after post moment = worker := by
  obtain ⟨system, event⟩ := moment
  cases event with
  | offer other audience => exact if_neg (of_decide_eq_false foreign)
  | dismiss other => exact if_neg (of_decide_eq_false foreign)
  | proceed other => exact if_neg (of_decide_eq_false foreign)
  | _ => rfl

namespace System

variable {system : System} {post count : Nat} {worker : Worker} {events : List Event}

/-- What a run comes to for a worker and for the others. -/
structure Employment (post : Nat) (system : System) (events : List Event) (after : Worker)
    (requested : List Event) (taken : List Audience) : Prop where
  /-- The worker in the end. -/
  worker : (system.run events).workers[post]? = some after
  /-- What is done directly. -/
  direct : system.directly post events = requested
  /-- What the worker accepts. -/
  accepted : acceptances post (system.moments events) = taken

namespace Employment

variable {events' requested requested' : List Event} {worker' : Worker}
  {taken taken' : List Audience}

theorem append (first : Employment post system events worker requested taken)
    (second : Employment post (system.run events) events' worker' requested' taken') :
    Employment post system (events ++ events') worker' (requested ++ requested')
      (taken ++ taken') where
  worker := run_append .. ▸ second.worker
  direct := by
    rw [← first.direct, ← second.direct]
    simp only [directly, moments_append, List.filterMap_append, List.map_append]
  accepted := by rw [moments_append, acceptances_append, first.accepted, second.accepted]

/-- What a single event comes to. -/
theorem singleton (found : system.workers[post]? = some worker) (event : Event)
    {direct : Option Moment} {accepted : Option Audience}
    (becomes : worker.after post ⟨system, event⟩ = worker')
    (replaced : Moment.direct? post ⟨system, event⟩ = direct)
    (taken : Moment.accepted? post ⟨system, event⟩ = accepted) :
    Employment post system [event] worker' (direct.map Moment.event).toList accepted.toList where
  worker := becomes ▸ @worker_run_concat system [] post worker found event
  direct := by cases direct <;> simp [directly, moments, replaced]
  accepted := (acceptances_singleton post ⟨system, event⟩).trans (congrArg _ taken)

/-- What is not for the worker happens directly as it is. -/
theorem of_foreign (found : system.workers[post]? = some worker)
    (foreign : ∀ event ∈ events, event.addresses post = false) :
    Employment post system events worker events [] := by
  induction events generalizing system with
  | nil => exact ⟨found, rfl, rfl⟩
  | cons event rest induction =>
      obtain ⟨first, others⟩ := List.forall_mem_cons.1 foreign
      have now : Employment post system [event] worker [event] [] :=
        singleton found event (worker.after_of_foreign first) (Moment.direct?_of_foreign first)
          (Moment.accepted?_of_foreign first)
      exact now.append (induction now.worker others)

/-- What was done directly leads to the same system, but for the worker. -/
theorem run_requested (found : system.workers[post]? = some worker)
    (employment : Employment post system events worker' requested taken) :
    (system.idling post).run requested = (system.run events).idling post :=
  employment.direct ▸ (direct_history found events).2

end Employment

/-- Any changes can be requested one after the other. -/
theorem exists_consecutive (system : System) (post : Nat) (changes : List Audience) :
    ∃ rounds, Consecutive post system rounds ∧ rounds.map Round.audience = changes := by
  induction changes generalizing system with
  | nil => exact ⟨[], trivial, rfl⟩
  | cons audience rest induction =>
      let requesting : Moment := ⟨system, .submit (.change audience)⟩
      have promising : (Errand.mk audience requesting.begun).Promising requesting.next :=
        Errand.promising_of_queued rfl audience
      obtain ⟨meanwhile, advances, -, ended⟩ := exists_finish_all promising
      let round : Round := ⟨audience, meanwhile⟩
      obtain ⟨rounds, consecutive, same⟩ := induction (system.run round.events)
      refine ⟨round :: rounds, ⟨⟨fun event member => ?_, ended⟩, consecutive⟩,
        congrArg (List.cons audience) same⟩
      obtain ⟨position, -, moves⟩ := advances event member
      cases moves <;> rfl

/-- A free worker takes up the change that is sent to it, where it would be requested directly. -/
theorem employment_sent (found : system.workers[post]? = some (.ready count))
    (audience : Audience) :
    Employment post system [.offer post audience, .proceed post]
      ⟨[], true, some (Moment.begun ⟨system.idling post, .submit (.change audience)⟩), count, false⟩
      [.submit (.change audience)] [audience] := by
  have room : (Worker.ready count).hasRoom system.board.queueCapacity = true := by
    simp [Worker.hasRoom, Worker.ready, Switchboard.queueCapacity_pos]
  have accepted : Moment.accepted? post ⟨system, .offer post audience⟩ = some audience := by
    simp only [Moment.accepted?, Moment.hasRoom, Moment.offered?, found, Option.any_some, room,
      if_true]
  have queued : (Worker.ready count).after post ⟨system, .offer post audience⟩ =
      ⟨[audience], true, none, count, false⟩ := by
    simp only [Worker.after, if_true, Worker.offer, room]
    rfl
  have sent : Employment post system [.offer post audience] ⟨[audience], true, none, count, false⟩
      [] [audience] :=
    .singleton found _ queued (Moment.direct?_of_addressed rfl (decide_eq_true rfl)) accepted
  have direct : Moment.direct? post ⟨system.run [.offer post audience], .proceed post⟩ =
      some ⟨system.idling post, .submit (.change audience)⟩ := by
    rw [Moment.direct?_of_takenUp? (Moment.takenUp?_proceed sent.worker),
      ← sent.run_requested found]
    rfl
  have busy : (Worker.mk [audience] true none count false).after post
        ⟨system.run [.offer post audience], .proceed post⟩ =
      ⟨[], true, some (Moment.begun ⟨system.idling post, .submit (.change audience)⟩), count,
        false⟩ := by
    rw [Moment.begun_of_direct? sent.worker direct]
    simp only [Worker.after, if_true, Worker.goOn]
  exact sent.append (.singleton sent.worker (.proceed post) busy direct
    (Moment.accepted?_of_silent rfl))

/-- A worker that sees that its change is over is free again. -/
theorem employment_seen {strands : List Nat}
    (found : system.workers[post]? = some ⟨[], true, some strands, count, false⟩)
    (ended : strands.all system.isOver = true) :
    Employment post system [.proceed post] (.ready (count + 1)) [] [] := by
  refine .singleton found (.proceed post) ?_
    (Moment.direct?_of_addressed (Moment.takenUp?_proceed found) (decide_eq_true rfl))
    (Moment.accepted?_of_silent rfl)
  simp only [Worker.after, if_true, Worker.goOn, ended]
  rfl

/-- In a round, a free worker does what is done without it. -/
theorem employment_round (found : system.workers[post]? = some (.ready count)) {round : Round}
    (complete : round.Complete post (system.idling post)) :
    Employment post system (round.employing post) (.ready (count + 1)) round.events
      [round.audience] := by
  have sent := employment_sent found round.audience
  have served := sent.append (.of_foreign sent.worker complete.foreign)
  have same := served.run_requested found
  have ended : (Moment.begun ⟨system.idling post, .submit (.change round.audience)⟩).all
      (system.run ([.offer post round.audience, .proceed post] ++ round.meanwhile)).isOver =
        true := by
    refine List.all_eq_true.2 fun position member => ?_
    exact congrArg (System.isOver · position) same ▸ (complete.finished position member).isOver
  have seen := served.append (employment_seen served.worker ended)
  rw [List.append_nil] at seen
  exact seen

/-- Round by round, a free worker does what is done without it. -/
theorem employment_rounds (found : system.workers[post]? = some (.ready count))
    {rounds : List Round} (consecutive : Consecutive post (system.idling post) rounds) :
    Employment post system (rounds.flatMap (Round.employing post)) (.ready (count + rounds.length))
      (rounds.flatMap Round.events) (rounds.map Round.audience) := by
  induction rounds generalizing system count with
  | nil => exact ⟨found, rfl, rfl⟩
  | cons round rest induction =>
      obtain ⟨complete, others⟩ := consecutive
      have first := employment_round found complete
      have later := induction first.worker (first.run_requested found ▸ others)
      rw [List.length_cons, Nat.add_comm rest.length 1, ← Nat.add_assoc]
      exact first.append later

/-- A free worker that is dismissed leaves, and nothing is done. -/
theorem employment_dismissed (found : system.workers[post]? = some (.ready count)) :
    Employment post system [.dismiss post, .proceed post] ⟨[], false, none, count, true⟩ [] [] := by
  have closed : Employment post system [.dismiss post] ⟨[], false, none, count, false⟩ [] [] := by
    refine .singleton found (.dismiss post) ?_
      (Moment.direct?_of_addressed rfl (decide_eq_true rfl)) (Moment.accepted?_of_silent rfl)
    simp only [Worker.after, if_true]
    rfl
  refine closed.append (.singleton closed.worker (.proceed post) ?_ (Moment.direct?_of_addressed
    (Moment.takenUp?_proceed closed.worker) (decide_eq_true rfl)) (Moment.accepted?_of_silent rfl))
  simp only [Worker.after, if_true, Worker.goOn]
  rfl

/-- What is requested directly in rounds is what a worker may have done until it left. -/
theorem exists_employment (fresh : system.workers[post]? = some .fresh) {rounds : List Round}
    (consecutive : Consecutive post (system.idling post) rounds) :
    ∃ events gone, (system.run events).workers[post]? = some gone ∧ gone.hasLeft = true ∧
      gone.processed = rounds.length ∧
      acceptances post (system.moments events) = rounds.map Round.audience ∧
      system.directly post events = rounds.flatMap Round.events := by
  have served := @employment_rounds system post 0 fresh rounds consecutive
  have left := served.append (employment_dismissed served.worker)
  rw [List.append_nil, List.append_nil] at left
  exact ⟨_, _, left.worker, rfl, Nat.zero_add _, left.accepted, left.direct⟩

end System
end ChannelMembership
