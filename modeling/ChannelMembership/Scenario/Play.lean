import ChannelMembership.Scenario.Course
import ChannelMembership.Scenario.Abandonment
import ChannelMembership.Scenario.Urgency

/-!
# Playing a script

A trial moves in small steps, and the rules say which comes next.  Whoever's turn it is goes on
until nothing of theirs can move.  Then the tasks in the background get their turn, those first that
a timer has woken, then the main script again.  When nothing at all can move, time jumps to the
next moment at which something is due, and the main script comes first again.

Among the spots of one strand the same principle holds.  Guards and copies are taken in the order of
the channels and connections; operations under way are taken up in the order in which they were
woken, and those just issued come last.
-/

namespace ChannelMembership
namespace Stage

/-! ### Moves -/

/-- How urgent it is to go on after a step that is over. -/
def urgencyOf (stage : Stage) : Doing → Urgency
  | .working task _ _ =>
    match stage.worker? task with
    | some (_, _, _, answered) => .woken answered
    | none => .ongoing
  | _ => .ongoing

/-- The moves by which a strand goes on, apart from those at its spots. -/
def deadlineMove (fuel : Nat) (stage : Stage) (position : Nat) : Option (Move Stage) :=
  match stage.strand position, stage.deadlines.lookup position with
  | .assigning _ _ true, some timer =>
    if stage.isDue timer then some ⟨.woken timer, expire fuel stage position⟩ else none
  | _, _ => none

mutual

/-- The next move of a script. -/
def frameMove (isMain : Bool) : Nat → Stage → Frame → Option (Move (Stage × Frame))
  | 0, _, _ => none
  | fuel + 1, stage, frame =>
    match frame.current with
    | none =>
      match frame.rest with
      | [] => none
      | step :: rest =>
        let (stage, doing) := stage.begin step
        some ⟨.fresh, stage, ⟨some doing, rest⟩⟩
    | some doing =>
      match stage.replyOf? doing with
      | some reply =>
        some ⟨stage.urgencyOf doing, stage.note isMain reply, ⟨none, frame.rest⟩⟩
      | none =>
        (doingMove fuel stage doing).map fun move =>
          move.map fun (stage, doing) => (stage, ⟨some doing, frame.rest⟩)

/-- The next move of a step in progress. -/
def doingMove : Nat → Stage → Doing → Option (Move (Stage × Doing))
  | 0, _, _ => none
  | fuel + 1, stage, doing =>
    match doing with
    | .awaiting strands users =>
      (strands.findSome? (strandMove fuel stage)).map fun move =>
        move.map fun stage => (stage, .awaiting strands users)
    | .sleeping timer reply =>
      if stage.isDue timer then some ⟨.woken timer, stage, .finished reply⟩ else none
    | .limited timer inner =>
      match stage.replyOf? inner with
      | some reply =>
        let urgency := stage.urgencyOf inner
        let (stage, pause) := stage.setTimer 1
        some ⟨urgency, stage, .sleeping pause reply⟩
      | none =>
        match doingMove fuel stage inner with
        | some move => some (move.map fun (stage, inner) => (stage, .limited timer inner))
        | none =>
          if stage.isDue timer then
            let stage := giveUp true fuel stage inner
            let (stage, pause) := stage.setTimer 1
            some ⟨.woken timer, stage, .sleeping pause .cancelled⟩
          else none
    | .detached inner =>
      match stage.replyOf? inner with
      | some reply => some ⟨.ongoing, stage, .finished reply⟩
      | none =>
        match doingMove fuel stage inner with
        | some move => some (move.map fun (stage, inner) => (stage, .detached inner))
        | none => some ⟨.ongoing, giveUp false fuel stage inner, .finished .cancelled⟩
    | .working task unsent accepted =>
      match unsent, stage.worker? task with
      | _ :: _, some (worker, position, roused, answered) =>
        if worker.hasRoom stage.system.board.queueCapacity then
          let (stage, left) := stage.send position unsent
          let stage := if left.isEmpty then stage.happen (.dismiss position) else stage
          let (stage, now) := stage.stamp
          let roused := if worker.queue.isEmpty then now else roused
          some ⟨.woken answered, stage.setWorker task position roused answered,
            .working task left (accepted + (unsent.length - left.length))⟩
        else none
      | _, _ => none
    | .finished _ => none

/-- The next move of a strand. -/
def strandMove : Nat → Stage → Nat → Option (Move Stage)
  | 0, _, _ => none
  | fuel + 1, stage, position =>
    match stage.strand position with
    | .queued _ => some ⟨.fresh, stage.happen (.visit position)⟩
    | strand =>
      let spots := strand.spots
      let move :=
        if spots.any Spot.isOperation then
          Move.best (spots.filterMap (spotMove fuel stage position))
        else spots.findSome? (spotMove fuel stage position)
      match move with
      | some move => some move
      | none => deadlineMove fuel stage position

/-- The next move at a spot. -/
def spotMove : Nat → Stage → Nat → Spot → Option (Move Stage)
  | 0, _, _, _ => none
  | fuel + 1, stage, position, spot =>
    match stage.holdAt? position spot with
    | none =>
      ((stage.strand position).inquiry? spot).map fun inquiry =>
        ⟨.fresh, stage.await position spot inquiry⟩
    | some (.playing frame delay ending) =>
      if frame.isOver then
        some ⟨.ongoing, stage.afterInterlude position spot delay ending⟩
      else
        (frameMove false fuel stage frame).map fun move =>
          ⟨move.urgency.inside,
            move.result.1.hold position spot (.playing move.result.2 delay ending)⟩
    | some (.sleeping timer ending) =>
      if stage.isDue timer then some ⟨.woken timer, stage.finishHold position spot ending⟩
      else none
    | some .stalled => none

end

/-- The next move of a worker: go on with a change, take up the next one, or leave.  Its sender gets
something to go on with when a full queue has room again, and when the worker leaves. -/
def workerMove (fuel : Nat) (stage : Stage) (task : Nat) : Option (Move Stage) :=
  match stage.worker? task with
  | none => none
  | some (worker, position, roused, _) =>
    let proceeded := stage.happen (.proceed position)
    match worker.current with
    | some strands =>
      if strands.all stage.system.isOver then some ⟨.ongoing, proceeded⟩
      else strands.findSome? (strandMove fuel stage)
    | none =>
      if worker.hasLeft || (worker.queue.isEmpty && worker.isOpen) then none
      else if worker.queue.isEmpty || stage.system.board.queueCapacity ≤ worker.queue.length then
        let (proceeded, answered) := proceeded.stamp
        some ⟨.woken roused, proceeded.setWorker task position roused answered⟩
      else some ⟨.woken roused, proceeded⟩

/-- The next move of a task in the background. -/
def taskMove (fuel : Nat) (stage : Stage) (task : Nat) : Option (Move Stage) :=
  match stage.tasks[task]? with
  | none => none
  | some (.resumption since) =>
    let position := stage.system.strands.length
    let stage := stage.happen .resume
    some ⟨.woken since, { stage with tasks := stage.tasks.set task (.strand position) }⟩
  | some (.strand position) => strandMove fuel stage position
  | some (.worker _ _ _) => workerMove fuel stage task

/-- The next move of the main script. -/
def mainMove (fuel : Nat) (stage : Stage) : Option (Move Stage) :=
  (frameMove true fuel stage stage.main).map fun move =>
    move.map fun (stage, frame) => { stage with main := frame }

/-! ### Time and turns -/

/-- The timers that a step in progress waits for. -/
def doingTimers : Doing → List Timer
  | .sleeping timer _ => [timer]
  | .limited timer inner => timer :: doingTimers inner
  | .detached inner => doingTimers inner
  | _ => []

/-- The timers that a script waits for. -/
def frameTimers (frame : Frame) : List Timer :=
  match frame.current with
  | some doing => doingTimers doing
  | none => []

/-- The timers that a held-up answer waits for. -/
def holdTimers : Hold → List Timer
  | .playing frame _ _ => frameTimers frame
  | .sleeping timer _ => [timer]
  | .stalled => []

/-- All timers that something waits for. -/
def timers (stage : Stage) : List Timer :=
  frameTimers stage.main ++ stage.holds.flatMap (fun entry => holdTimers entry.2) ++
    stage.deadlines.filterMap fun (position, timer) =>
      match stage.strand position with
      | .assigning _ _ true => some timer
      | _ => none

/-- The next time at which something is due. -/
def nextDue? (stage : Stage) : Option Nat :=
  ((stage.timers.map Timer.due).filter (stage.now < ·)).min?

/-- The move of whoever's turn it is. -/
def turnMove (fuel : Nat) (stage : Stage) : Option Stage :=
  match stage.turn with
  | .main => (mainMove fuel stage).map Move.result
  | .task position => (taskMove fuel stage position).map Move.result

/-- The turn passes to the most urgent task in the background, to the main script, or time jumps. -/
def passTurn (fuel : Nat) (stage : Stage) : Option Stage :=
  let candidates := (List.range stage.tasks.length).filterMap fun position =>
    (taskMove fuel stage position).map fun move => move.map fun _ => position
  match Move.best candidates with
  | some move => some { stage with turn := .task move.result }
  | none =>
    if (mainMove fuel stage).isSome then some { stage with turn := .main }
    else stage.nextDue?.map fun due => { stage with now := due, turn := .main }

/-- The next step of a trial; a trial is over when its main script is. -/
def next? (fuel : Nat) (stage : Stage) : Option Stage :=
  if stage.main.isOver then none
  else
    match turnMove fuel stage with
    | some stage => some stage
    | none => passTurn fuel stage

/-- Let a trial go on for a number of steps at most. -/
def play (depth : Nat) : Nat → Stage → Stage
  | 0, stage => stage
  | steps + 1, stage =>
    match stage.next? depth with
    | some stage => play depth steps stage
    | none => stage

/-- The beginning of a trial with guards labelled by the numbers below `labels`. -/
def initial (board : Switchboard) (labels : Nat) (script : List Step) : Stage where
  system := System.initial board
  receivers := Receivers.empty
  now := 0
  timersSet := 0
  hooks := []
  holds := []
  deadlines := []
  tasks := []
  turn := .main
  main := ⟨none, script⟩
  questions := List.replicate labels 0
  lookups := 0
  interludes := []
  callsSeen := 0
  entries := []

/-- The end of a trial.  Hooks without a limit may set each other off for ever; such a trial is
broken off after a million steps, or when ten thousand steps are nested in each other. -/
def trial (board : Switchboard) (labels : Nat) (script : List Step) : Stage :=
  (initial board labels script).play 10000 1000000

end Stage
end ChannelMembership
