import ChannelMembership.Proofs.Switchboard.Dispatch
import ChannelMembership.Proofs.Switchboard.Employment

/-!
# Requests left to themselves

Strands go on by being looked at and by answers that come in.  While nothing else happens, nobody comes
or goes, the account store knows what it knew, and no strand begins or is given up.
-/

namespace ChannelMembership

/-- An event by which one strand goes on: its user is looked at, or an answer comes in, whether its call
passes or fails on the way. -/
inductive Event.Furthers (position : Nat) : Event → Prop
  /-- The user is looked at. -/
  | visit : Furthers position (.visit position)
  /-- An answer comes in. -/
  | answer (spot : Spot) (passage : Passage) : Furthers position (.perform position spot passage)

namespace Event

variable {position : Nat} {event : Event}

theorem Furthers.strand?_eq (furthers : event.Furthers position) :
    event.strand? = some position := by
  cases furthers <;> rfl

end Event

namespace System

/-- A strand that goes on leaves directory, limits, presence and the account store as they are. -/
theorem board_step_of_furthers (system : System) {event : Event} {position : Nat}
    (furthers : event.Furthers position) :
    (system.step event).board =
      { system.board with
        tabulated := (system.step event).board.tabulated
        slots := (system.step event).board.slots
        link := (system.step event).board.link } := by
  rw [step_board]
  cases furthers <;> rfl

/-- A strand that goes on leaves the other ones as they are. -/
theorem getElem?_step_of_furthers (system : System) {event : Event} {position other : Nat}
    (furthers : event.Furthers position) (apart : other ≠ position) :
    (system.step event).strands[other]? = system.strands[other]? := by
  cases furthers <;>
    · simp only [step]
      split
      · exact List.getElem?_set_ne apart.symm
      · rfl

end System
end ChannelMembership
