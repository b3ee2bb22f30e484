import ChannelMembership.Scenario.Stage

/-!
# Urgency

Of all moves that are possible at some moment the most urgent one is made: first what is already in
progress, then what a timer has woken, in the order of the timers, and last what is only to begin.
-/

namespace ChannelMembership

/-- How urgent a move is. -/
inductive Urgency where
  /-- It continues what is already in progress. -/
  | ongoing
  /-- It was woken by a timer. -/
  | woken (timer : Timer)
  /-- It begins something. -/
  | fresh
  deriving DecidableEq

namespace Urgency

/-- Whether a move has to come before another. -/
def precedes : Urgency → Urgency → Bool
  | ongoing, ongoing => false
  | ongoing, _ => true
  | woken _, ongoing => false
  | woken a, woken b => a.due < b.due || (a.due = b.due && a.order < b.order)
  | woken _, fresh => true
  | fresh, _ => false

/-- The urgency of a move inside something that is already in progress. -/
def inside : Urgency → Urgency
  | fresh => ongoing
  | other => other

end Urgency

/-- A possible move: its urgency and its result. -/
structure Move (α : Type) where
  /-- How urgent it is. -/
  urgency : Urgency
  /-- What it leads to. -/
  result : α

namespace Move

/-- The most urgent of some moves, the first one among equals. -/
def best {α : Type} : List (Move α) → Option (Move α)
  | [] => none
  | move :: rest =>
    match best rest with
    | none => some move
    | some other => if other.urgency.precedes move.urgency then some other else some move

/-- Change the result of a move. -/
def map {α β : Type} (f : α → β) (move : Move α) : Move β := ⟨move.urgency, f move.result⟩

end Move

end ChannelMembership
