import ChannelMembership.Scenario.Background

/-!
# Giving up

A step that is given up takes with it everything it has set going: its strands, what holds up their
answers, and the steps in progress there.
-/

namespace ChannelMembership
namespace Stage

mutual

/-- Give up a step in progress, with everything it has set going. -/
def giveUp (kept : Bool) : Nat → Stage → Doing → Stage
  | 0, stage, _ => stage
  | fuel + 1, stage, doing =>
    match doing with
    | .awaiting strands _ => strands.foldl (giveUpStrand kept fuel) stage
    | .limited _ inner => giveUp kept fuel stage inner
    | .detached inner => giveUp kept fuel stage inner
    | .working task _ _ =>
      match stage.worker? task with
      | some (_, position, _) => stage.happen (.dismiss position)
      | none => stage
    | .sleeping _ _ => stage
    | .finished _ => stage

/-- Give up whatever holds up the answers of a strand, the operation issued last first. -/
def giveUpHolds (kept : Bool) : Nat → Stage → Nat → Stage
  | 0, stage, _ => stage
  | fuel + 1, stage, position =>
    let spots := (stage.strand position).spots
    (if spots.any Spot.isOperation then spots.reverse else spots).foldl (fun stage spot =>
      match stage.holdAt? position spot with
      | some (.playing ⟨some doing, _⟩ _ _) =>
        (giveUp kept fuel stage doing).unhold position spot
      | some _ => stage.unhold position spot
      | none => stage) stage

/-- Give up a strand.  Work it leaves undone is resumed in the background if it is kept. -/
def giveUpStrand (kept : Bool) : Nat → Stage → Nat → Stage
  | 0, stage, _ => stage
  | fuel + 1, stage, position =>
    let stage := giveUpHolds kept fuel stage position
    (stage.happen (.abandon position kept)).scheduleUndone stage.system.undone.length

end

/-- The time for the setup of a connection has run out. -/
def expire (fuel : Nat) (stage : Stage) (position : Nat) : Stage :=
  (giveUpHolds true fuel stage position).happen (.expire position)

end Stage
end ChannelMembership
