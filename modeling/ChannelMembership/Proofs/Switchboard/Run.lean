import ChannelMembership.Proofs.Switchboard.Pass
import ChannelMembership.Switchboard.Run

/-!
# What a run achieves

A run stands in one of two ways.  Either it owns the slot of its user, a pass is going on, and the
newest work of the others is parked; or it is over, its slot is idle, and everything its last pass
decided about is settled.  A run goes from one pass to the next only by taking the parked work.
-/

namespace ChannelMembership

namespace Slots

variable {slots : Slots} {user : UserKey}

/-- The owner of a slot in which nothing is parked gives it back. -/
theorem next_of_running_none (held : slots.slot user = .running none) :
    slots.next ⟨user, true⟩ = (slots.set user .idle, ⟨user, false⟩, none) := by
  simp [next, held]

/-- The owner of a slot takes what is parked there. -/
theorem next_of_running_some {work : Work} (held : slots.slot user = .running (some work)) :
    slots.next ⟨user, true⟩ = (slots.set user (.running none), ⟨user, true⟩, some work) := by
  simp [next, held]

end Slots

namespace RunState

/-- How a run for a user stands: with some work, on the connections that its pass found, and with
work that is parked. -/
inductive Stands (board : Switchboard) (excused : Connection → Channel → Prop) (user : UserKey) :
    Work → List Connection → Option Work → RunState → Prop
  /-- The run owns the slot, and its pass goes on. -/
  | active {work : Work} {found : List Connection} {parked : Option Work} {pass : Pass}
    (held : board.slots.slot user = .running parked) (going : pass.outcome? = none)
    (serves : pass.Serves board.directory board.groups excused user work found) :
    Stands board excused user work found parked (active ⟨⟨user, true⟩, work, pass⟩)
  /-- The slot has been given back with nothing parked. -/
  | concluded {work : Work} {found : List Connection} {outcome : Outcome}
    (idle : board.slots.slot user = .idle)
    (closes : outcome.Closes board.directory user work found)
    (settled : work.Settled board.directory board.groups excused found) :
    Stands board excused user work found none (.over outcome)

variable {board board' : Switchboard} {excused excused' : Connection → Channel → Prop}
  {user : UserKey} {work : Work} {found : List Connection} {parked : Option Work}
  {state : RunState}

/-- Excuses may grow, and whatever else happens to the memberships needs an excuse. -/
theorem Stands.mono (stands : state.Stands board excused user work found parked)
    (directory : board'.directory = board.directory)
    (slot : board'.slots.slot user = board.slots.slot user)
    (kept : ∀ connection ∈ found, ∀ channel,
      excused connection channel → excused' connection channel)
    (frame : ∀ connection ∈ found, ∀ channel, excused' connection channel ∨
      board'.groups.isMember channel connection = board.groups.isMember channel connection) :
    state.Stands board' excused' user work found parked := by
  cases stands with
  | active held going serves =>
      refine .active (slot.trans held) going ?_
      rw [directory]
      exact serves.mono kept frame
  | concluded idle closes settled =>
      refine .concluded (slot.trans idle) ?_ ?_
      · rwa [directory]
      · rw [directory]
        exact settled.mono kept frame

end RunState

namespace Run

/-- The parked work with which a run goes on when its pass is over. -/
def next? (run : Run) (board : Switchboard) : Option Work :=
  if run.pass.outcome?.isSome then (board.slots.next run.ticket).2.2 else none

/-- The parked work with which a run goes on after the answer at a spot. -/
def successor? (run : Run) (board : Switchboard) (passage : Passage) (spot : Spot) :
    Option Work :=
  next? { run with pass := (run.pass.perform board passage spot).2 }
    (run.pass.perform board passage spot).1

theorem advance_board (run : Run) (board : Switchboard) :
    (run.advance board).1 =
      { board with
        slots := (run.advance board).1.slots
        tabulated := (run.advance board).1.tabulated } := by
  unfold advance
  split
  · rfl
  · simp only
    split
    · rfl
    · split <;> rw [Pass.start_board]

/-- An answer brings the pass forward, and then the run advances. -/
theorem perform_eq (run : Run) (board : Switchboard) (passage : Passage) (spot : Spot) :
    run.perform board passage spot =
      advance { run with pass := (run.pass.perform board passage spot).2 }
        (run.pass.perform board passage spot).1 := rfl

theorem start_board (board : Switchboard) (user : UserKey) (work : Work) :
    (start board user work).1 =
      { board with
        slots := (start board user work).1.slots
        tabulated := (start board user work).1.tabulated } := by
  unfold start
  split
  · rfl
  · rw [advance_board, Pass.start_board]

theorem perform_board (run : Run) (board : Switchboard) (passage : Passage) (spot : Spot) :
    (run.perform board passage spot).1 =
      { board with
        slots := (run.perform board passage spot).1.slots
        tabulated := (run.perform board passage spot).1.tabulated
        link := (run.pass.perform board passage spot).1.link } := by
  rw [perform_eq, advance_board, Pass.perform_board]

/-- Only what is attempted at the spot changes a membership. -/
theorem groups_perform (run : Run) (board : Switchboard) (passage : Passage) (spot : Spot) :
    (run.perform board passage spot).1.groups =
      board.groups.afterAttempt (board.attempt? passage spot (run.pass.inquiry? spot)) := by
  rw [perform_board]
  exact run.pass.groups_perform board passage spot

theorem slot_advance_of_ne (run : Run) (board : Switchboard) {other : UserKey}
    (apart : other ≠ run.ticket.user) :
    (run.advance board).1.slots.slot other = board.slots.slot other := by
  unfold advance
  split
  · rfl
  · have apart' : other ≠ (board.slots.next run.ticket).2.1.user := by
      rwa [Slots.next_user]
    simp only
    split
    · exact Slots.slot_next_of_ne apart
    · split
      · rw [Pass.start_board]
        exact Slots.slot_next_of_ne apart
      · rw [Slots.slot_next_of_ne apart', Pass.start_board]
        exact Slots.slot_next_of_ne apart

theorem slot_start_of_ne (board : Switchboard) (work : Work) {user other : UserKey}
    (apart : other ≠ user) :
    (start board user work).1.slots.slot other = board.slots.slot other := by
  have entered := board.slots.slot_enter_of_ne work apart
  unfold start
  cases slot : board.slots.slot user with
  | idle =>
      simp only [Slots.enter, slot] at entered ⊢
      rw [slot_advance_of_ne _ _ apart, Pass.start_board]
      exact entered
  | running parked =>
      simp only [Slots.enter, slot] at entered ⊢
      exact entered

theorem slot_perform_of_ne (run : Run) (board : Switchboard) (passage : Passage) (spot : Spot)
    {other : UserKey} (apart : other ≠ run.ticket.user) :
    (run.perform board passage spot).1.slots.slot other = board.slots.slot other := by
  have advanced := slot_advance_of_ne { run with pass := (run.pass.perform board passage spot).2 }
    (run.pass.perform board passage spot).1 apart
  rw [perform_eq, advanced, Pass.perform_board]

variable {board : Switchboard} {excused excused' : Connection → Channel → Prop} {user : UserKey}
  {work : Work} {found : List Connection} {parked : Option Work} {pass : Pass}

/-- A run without parked work to go on with keeps to its pass, or is over with it. -/
theorem stands_advance (held : board.slots.slot user = .running parked)
    (serves : pass.Serves board.directory board.groups excused user work found)
    (last : next? ⟨⟨user, true⟩, work, pass⟩ board = none) :
    (advance ⟨⟨user, true⟩, work, pass⟩ board).2.Stands
      (advance ⟨⟨user, true⟩, work, pass⟩ board).1 excused user work found parked := by
  cases finished : pass.outcome? with
  | none =>
      simp only [advance, finished]
      exact .active held finished serves
  | some outcome =>
      obtain ⟨closes, settled⟩ := serves.closes finished
      cases parked with
      | some next => simp [next?, finished, Slots.next_of_running_some held] at last
      | none =>
          simp only [advance, finished, Slots.next_of_running_none held]
          exact .concluded (Slots.slot_set_self _ _ _) closes settled

/-- A run that goes on with parked work begins a new pass on the connections live at that moment. -/
theorem stands_advance_next (held : board.slots.slot user = .running parked) {next : Work}
    (more : next? ⟨⟨user, true⟩, work, pass⟩ board = some next) :
    parked = some next ∧ (advance ⟨⟨user, true⟩, work, pass⟩ board).2.Stands
      (advance ⟨⟨user, true⟩, work, pass⟩ board).1 excused user next
      (board.presence.connections user) none := by
  cases finished : pass.outcome? with
  | none => simp [next?, finished] at more
  | some outcome =>
      cases parked with
      | none => simp [next?, finished, Slots.next_of_running_none held] at more
      | some other =>
          have same : other = next := by
            simpa [next?, finished, Slots.next_of_running_some held] using more
          subst same
          refine ⟨rfl, ?_⟩
          simp only [advance, finished, Slots.next_of_running_some held]
          generalize entered :
            ({ board with slots := board.slots.set user (.running none) } : Switchboard) = taken
          have slot : taken.slots.slot user = .running none := by simp [← entered]
          have serves := Pass.serves_start taken taken.groups excused user other
          have presence : taken.presence = board.presence := by rw [← entered]
          rw [presence] at serves
          have started := Pass.start_board taken user other
          split
          · rename_i going
            refine .active ?_ going ?_
            · rw [started]
              exact slot
            · rw [started]
              exact serves
          · rename_i final ended
            obtain ⟨closes, settled⟩ := serves.closes ended
            rw [started]
            refine .concluded ?_ closes settled
            simp [Slots.next_of_running_none slot]

/-- A run entering an idle slot begins a pass on the connections live at that moment. -/
theorem stands_start (excused : Connection → Channel → Prop) (work : Work)
    (idle : board.slots.slot user = .idle) :
    (start board user work).2.Stands (start board user work).1 excused user work
      (board.presence.connections user) none := by
  simp only [start, Slots.enter, idle]
  generalize entered :
    ({ board with slots := board.slots.set user (.running none) } : Switchboard) = taken
  have slot : taken.slots.slot user = .running none := by simp [← entered]
  have presence : taken.presence = board.presence := by rw [← entered]
  have serves := Pass.serves_start taken taken.groups excused user work
  have started := Pass.start_board taken user work
  rw [presence] at serves
  refine stands_advance ?_ ?_ ?_
  · rw [started]
    exact slot
  · rw [started]
    exact serves
  · rw [started]
    simp [next?, Slots.next_of_running_none slot]

/-- Work that finds the slot taken is parked there, in place of any work parked earlier. -/
theorem start_of_running (work : Work) (held : board.slots.slot user = .running parked) :
    start board user work =
      ({ board with slots := board.slots.set user (.running (some work)) }, .over .coalesced) := by
  simp [start, Slots.enter, held]

/-- A run goes on standing when an answer comes about that does not make it go on with parked
work. -/
theorem stands_perform (held : board.slots.slot user = .running parked)
    (serves : pass.Serves board.directory board.groups excused user work found)
    {passage : Passage} {spot : Spot}
    (excuses : Excuses (board.attempt? passage spot (pass.inquiry? spot)) excused excused')
    (last : successor? ⟨⟨user, true⟩, work, pass⟩ board passage spot = none) :
    (perform ⟨⟨user, true⟩, work, pass⟩ board passage spot).2.Stands
      (perform ⟨⟨user, true⟩, work, pass⟩ board passage spot).1 excused' user work found
      parked := by
  have performed := pass.perform_board board passage spot
  have slots : (pass.perform board passage spot).1.slots = board.slots := by rw [performed]
  have directory : (pass.perform board passage spot).1.directory = board.directory := by
    rw [performed]
  have held' : (pass.perform board passage spot).1.slots.slot user = .running parked := by
    rw [slots, held]
  have serves' := serves.perform excuses
  rw [← directory] at serves'
  rw [perform_eq]
  exact stands_advance held' serves' last

/-- A run that goes on with parked work after an answer begins a new pass on the connections live at
that moment. -/
theorem stands_perform_next (excused : Connection → Channel → Prop)
    (held : board.slots.slot user = .running parked) {passage : Passage} {spot : Spot}
    {next : Work} (more : successor? ⟨⟨user, true⟩, work, pass⟩ board passage spot = some next) :
    parked = some next ∧ (perform ⟨⟨user, true⟩, work, pass⟩ board passage spot).2.Stands
      (perform ⟨⟨user, true⟩, work, pass⟩ board passage spot).1 excused user next
      (board.presence.connections user) none := by
  have performed := pass.perform_board board passage spot
  have slots : (pass.perform board passage spot).1.slots = board.slots := by rw [performed]
  have presence : (pass.perform board passage spot).1.presence = board.presence := by
    rw [performed]
  have held' : (pass.perform board passage spot).1.slots.slot user = .running parked := by
    rw [slots, held]
  rw [← presence, perform_eq]
  exact stands_advance_next held' more

/-- A run behind which nothing is parked has no work to go on with. -/
theorem successor?_of_unparked (held : board.slots.slot user = .running none) (passage : Passage)
    (spot : Spot) : successor? ⟨⟨user, true⟩, work, pass⟩ board passage spot = none := by
  cases more : successor? ⟨⟨user, true⟩, work, pass⟩ board passage spot with
  | none => rfl
  | some next =>
      obtain ⟨parked, -⟩ := stands_perform_next (fun _ _ => True) held more
      cases parked

end Run
end ChannelMembership
