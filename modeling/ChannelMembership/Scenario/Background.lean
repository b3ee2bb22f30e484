import ChannelMembership.Scenario.Awaiting

/-!
# Tasks in the background

Work left undone is resumed by a task of its own, and so is every worker run.  For a worker and its
sender it matters when each of them last gave the other something to go on with.
-/

namespace ChannelMembership
namespace Stage

/-- The present moment, after everything that happened so far. -/
def stamp (stage : Stage) : Stage × Timer := stage.setTimer 0

/-- Start a task in the background if more work is left undone than before. -/
def scheduleUndone (stage : Stage) (before : Nat) : Stage :=
  if before < stage.system.undone.length then
    let (stage, since) := stage.stamp
    { stage with tasks := stage.tasks ++ [.resumption since] }
  else stage

/-- The worker of a task in the background, with its position and when it was last roused and last
answered. -/
def worker? (stage : Stage) (task : Nat) : Option (Worker × Nat × Timer × Timer) :=
  match stage.tasks[task]? with
  | some (.worker position roused answered) =>
    (stage.system.workers[position]?).map fun worker => (worker, position, roused, answered)
  | _ => none

/-- Set when the worker of a task was last roused and last answered. -/
def setWorker (stage : Stage) (task position : Nat) (roused answered : Timer) : Stage :=
  { stage with tasks := stage.tasks.set task (.worker position roused answered) }

/-- Send changes to a worker as long as there is room; the changes left over are returned. -/
def send (stage : Stage) (position : Nat) : List Audience → Stage × List Audience
  | [] => (stage, [])
  | audience :: rest =>
    let room := (stage.system.workers[position]?).any fun worker =>
      worker.hasRoom stage.system.board.queueCapacity
    if room then (stage.happen (.offer position audience)).send position rest
    else (stage, audience :: rest)

end Stage
end ChannelMembership
