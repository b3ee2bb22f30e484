import ChannelMembership.Proofs.Switchboard.Rounds

/-!
# Permission changes are applied in turn

A worker is hired at a hub in which anything may be going on, changes are sent to it, and meanwhile
anything else may happen.  The worker applies the changes that were accepted, each once and in the
order in which they were sent, and takes none up before the last one is finished.  To everything but
its queue this is as if each change had been requested directly at that moment; and whatever comes
of requesting changes directly, each after the last one is finished, may have come of employing a
worker.
-/

namespace ChannelMembership

namespace System

/-- The hub with one more worker. -/
def hired (hub : System) : System := hub.step .hire

/-- The post of the worker that is hired next. -/
def vacancy (hub : System) : Nat := hub.workers.length

theorem hired_worker (hub : System) : hub.hired.workers[hub.vacancy]? = some .fresh :=
  List.getElem?_concat_length

theorem hired_idling (hub : System) : hub.hired.idling hub.vacancy = hub.hired := by
  simp [idling, hired, vacancy, step]

end System

/-- Whom the account store is asked about does not depend on the worker. -/
theorem Moment.lookedUp?_direct (post : Nat) (moment : Moment) :
    (moment.direct? post).bind lookedUp? = moment.lookedUp? := by
  cases mine : moment.event.addresses post with
  | false =>
      rw [direct?_of_foreign mine]
      rfl
  | true =>
      have silent : moment.lookedUp? = none := by
        obtain ⟨system, event⟩ := moment
        cases event <;> first | rfl | cases mine
      cases taken : moment.takenUp? post with
      | none =>
          rw [direct?_of_addressed taken mine, silent]
          rfl
      | some errand =>
          rw [direct?_of_takenUp? taken, silent]
          rfl

/-- A worker applies the changes that it accepted in turn. -/
structure System.AppliesInTurn (hub : System) (events : List Event) (worker : Worker) : Prop where
  /-- What was accepted has been taken up in the order in which it was sent, or is queued. -/
  order : acceptances hub.vacancy (hub.hired.moments events) =
    (errands hub.vacancy (hub.hired.moments events)).map Errand.audience ++ worker.queue
  /-- A change is taken up only when all strands of the changes taken up before are over. -/
  apart : ∀ next, Moment.takenUp? hub.vacancy ⟨hub.hired.run events, .proceed hub.vacancy⟩ =
    some next → ∀ errand ∈ errands hub.vacancy (hub.hired.moments events),
      errand.Finished (hub.hired.run events)
  /-- When the worker has left, everything that was accepted has been taken up and is finished, and
  it has counted all of it. -/
  returns : worker.hasLeft = true →
    (errands hub.vacancy (hub.hired.moments events)).map Errand.audience =
        acceptances hub.vacancy (hub.hired.moments events) ∧
      worker.processed = (acceptances hub.vacancy (hub.hired.moments events)).length ∧
      ∀ errand ∈ errands hub.vacancy (hub.hired.moments events),
        errand.Finished (hub.hired.run events)
  /-- Once nobody can send any more, the worker and the strands of its changes need only go on, and
  it leaves. -/
  leaves : worker.isOpen = false → ∃ later gone,
    (∀ event ∈ later, event.Drives hub.vacancy) ∧
      (hub.hired.run (events ++ later)).workers[hub.vacancy]? = some gone ∧ gone.hasLeft = true
  /-- If each change is requested directly where the worker takes it up, the histories agree moment
  by moment. -/
  direct : hub.hired.moments (hub.hired.directly hub.vacancy events) =
    (hub.hired.moments events).filterMap (Moment.direct? hub.vacancy)
  /-- In the end the registry, the slots, the accounts, the groups, the outboxes, the log and the
  interference are the same. -/
  board : (hub.hired.run (hub.hired.directly hub.vacancy events)).board =
    (hub.hired.run events).board
  /-- So are the strands of all requests. -/
  strands : (hub.hired.run (hub.hired.directly hub.vacancy events)).strands =
    (hub.hired.run events).strands
  /-- So is the work that was left undone. -/
  undone : (hub.hired.run (hub.hired.directly hub.vacancy events)).undone =
    (hub.hired.run events).undone
  /-- The account store was asked about the same users in the same order. -/
  lookUps : (hub.hired.moments (hub.hired.directly hub.vacancy events)).filterMap
      Moment.lookedUp? =
    (hub.hired.moments events).filterMap Moment.lookedUp?
  /-- If whoever sends waits until there is room, everything is accepted. -/
  patient : (∀ moment ∈ hub.hired.moments events,
      (moment.offered? hub.vacancy).isSome = true → moment.hasRoom hub.vacancy = true) →
    acceptances hub.vacancy (hub.hired.moments events) =
      offers hub.vacancy (hub.hired.moments events)
  /-- There is always room again: whatever is to be sent, it can be sent in this way. -/
  awaited : worker.isOpen = true → ∀ changes, ∃ later,
    (∀ event ∈ later, event.Drives hub.vacancy ∨ ∃ audience, event = .offer hub.vacancy audience) ∧
      offers hub.vacancy ((hub.hired.run events).moments later) = changes ∧
      acceptances hub.vacancy ((hub.hired.run events).moments later) = changes
  /-- If everything is sent before the worker has gone on for the first time, what is accepted is
  what was sent until the queue was full; a queue holds at least one change. -/
  hasty : ∀ early late, events = early ++ late →
    (∀ event ∈ early, event ≠ .proceed hub.vacancy ∧ event ≠ .dismiss hub.vacancy) →
    offers hub.vacancy ((hub.hired.run early).moments late) = [] →
    acceptances hub.vacancy (hub.hired.moments events) =
      (offers hub.vacancy (hub.hired.moments events)).take
        (max 1 hub.board.limits.changesQueued.val)

/-- To employ a worker at a hub amounts to requesting changes directly, one after the other. -/
structure System.EmploysInTurn (hub : System) : Prop where
  /-- Whatever happens after a worker was hired, it applies changes in turn. -/
  applies : ∀ events, ∃ worker, (hub.hired.run events).workers[hub.vacancy]? = some worker ∧
    hub.AppliesInTurn events worker
  /-- Any changes can be requested directly, each after the last one was finished. -/
  feasible : ∀ changes, ∃ rounds, System.Consecutive hub.vacancy hub.hired rounds ∧
    rounds.map Round.audience = changes
  /-- If changes are requested directly, each after the last one was finished, a worker that has
  left may have applied exactly these changes, so that the same was done. -/
  attains : ∀ rounds, System.Consecutive hub.vacancy hub.hired rounds → ∃ events gone,
    (hub.hired.run events).workers[hub.vacancy]? = some gone ∧ gone.hasLeft = true ∧
      gone.processed = rounds.length ∧
      acceptances hub.vacancy (hub.hired.moments events) = rounds.map Round.audience ∧
      hub.hired.directly hub.vacancy events = rounds.flatMap Round.events

/-- A worker applies what it accepts in turn, whatever else happens. -/
theorem System.exists_appliesInTurn (hub : System) (events : List Event) :
    ∃ worker, (hub.hired.run events).workers[hub.vacancy]? = some worker ∧
      hub.AppliesInTurn events worker := by
  have fresh := hub.hired_worker
  obtain ⟨worker, found, keeps⟩ :=
    System.keeps_run fresh (Worker.keeps_fresh hub.hired) events
  rw [List.nil_append, List.nil_append] at keeps
  have history := System.direct_history fresh events
  rw [hub.hired_idling] at history
  refine ⟨worker, found, ?_⟩
  exact {
    order := keeps.order
    apart := fun next taken => by
      rw [Moment.takenUp?_proceed found] at taken
      obtain ⟨audience, upcoming, -⟩ := Option.map_eq_some_iff.1 taken
      exact (keeps.stands.of_free (Worker.current_of_upcoming upcoming)).2
    returns := fun left => by
      obtain ⟨-, empty, idle⟩ := keeps.gone left
      obtain ⟨counted, finished⟩ := keeps.stands.of_free idle
      have all := keeps.order
      rw [empty, List.append_nil] at all
      refine ⟨all.symm, ?_, finished⟩
      rw [counted, all, List.length_map]
    leaves := fun closed => by
      obtain ⟨later, gone, drives, present, left⟩ := System.exists_gone found keeps closed
      exact ⟨later, gone, drives, System.run_append .. ▸ present, left⟩
    direct := history.1
    board := by rw [history.2]; rfl
    strands := by rw [history.2]; rfl
    undone := by rw [history.2]; rfl
    lookUps := by
      rw [history.1, List.filterMap_filterMap]
      exact congrArg (List.filterMap · _) (funext (Moment.lookedUp?_direct _))
    patient := fun awaited => List.filterMap_congr fun moment member => by
      cases sent : moment.offered? hub.vacancy with
      | none => exact Moment.accepted?_of_silent sent
      | some audience =>
          rw [Moment.accepted?, awaited moment member (sent ▸ rfl), sent, if_pos rfl]
    awaited := System.exists_awaited found keeps
    hasty := fun early late split untouched silent => by
      subst split
      rw [System.moments_append, offers_append, acceptances_append, silent,
        acceptances_of_silent silent, List.append_nil, List.append_nil,
        System.acceptances_of_untouched untouched fresh, Switchboard.queueCapacity_eq_max]
      rfl }

/-- Permission changes that are sent to a worker are applied as if they were requested in turn. -/
theorem changes_are_applied_in_turn (hub : System) : hub.EmploysInTurn where
  applies := hub.exists_appliesInTurn
  feasible := System.exists_consecutive hub.hired hub.vacancy
  attains _ consecutive :=
    System.exists_employment hub.hired_worker (hub.hired_idling.symm ▸ consecutive)

end ChannelMembership
