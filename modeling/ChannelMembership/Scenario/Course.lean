import ChannelMembership.Overview
import ChannelMembership.Scenario.Background

/-!
# The course of a step

How a step of a script begins, what it reports once it is over, and where the report is entered.
-/

namespace ChannelMembership
namespace Stage

/-- A description of a part of the system. -/
def describe (stage : Stage) (subject : Subject) : String :=
  let board := stage.system.board
  match subject with
  | .switchboard => board.overview
  | .membership => board.membershipOverview
  | .routing => board.routingOverview
  | .presence => board.presence.overview
  | .exchange => board.link.exchange.overview
  | .access => board.accessOverview
  | .limits => board.limits.overview

/-- The state of the system; besides the known channels, those given are looked at. -/
def survey (stage : Stage) (further : List Channel) : Survey :=
  let board := stage.system.board
  let exchange := board.link.exchange
  { presence := board.presence.users.map fun user => (user, board.presence.connections user)
    connectionCount := board.presence.connectionCount
    groups := ((sortedSet (board.directory.channels ++ further)).map fun channel =>
      (channel, exchange.groups.members channel)).filter fun group => !group.2.isEmpty
    questions := stage.questions
    lookups := stage.lookups
    injected := board.link.injected }

/-- Replace the exchange and the receiving ends. -/
def withReceivers (stage : Stage) (receivers : Receivers) (exchange : Exchange) : Stage :=
  { stage with receivers := receivers, system := stage.system.withExchange exchange }

/-- Make a request.  The setup of a connection has to be over in time. -/
def submit (stage : Stage) (request : Request) : Stage × List Nat :=
  let first := stage.system.strands.length
  let stage := stage.happen (.submit request)
  let strands := List.range' first (stage.system.strands.length - first)
  match request with
  | .connect _ _ =>
    let (stage, timer) := stage.setTimer stage.system.board.limits.handshake.millis
    ({ stage with deadlines := strands.map (·, timer) ++ stage.deadlines }, strands)
  | _ => (stage, strands)

/-- The users concerned by a request, if it is a permission change. -/
def visitedBy (stage : Stage) : Request → Option (List UserKey)
  | .change audience => some (audience.members stage.system.board.presence)
  | _ => none

/-- Begin a step. -/
def begin (stage : Stage) : Step → Stage × Doing
  | .request request =>
    let users := stage.visitedBy request
    let (stage, strands) := stage.submit request
    (stage, .awaiting strands users)
  | .disconnect user connection =>
    (stage.happen (.disconnect user connection),
      .finished (.changed (stage.system.board.presence.deregister user connection).2))
  | .register user connection =>
    (stage.happen (.register user connection),
      .finished (.changed (stage.system.board.presence.register user connection).2))
  | .setAccount user account => (stage.happen (.setAccount user account), .finished .done)
  | .open connection =>
    let (receivers, exchange) :=
      stage.receivers.open connection.id connection stage.system.exchange
    (stage.withReceivers receivers exchange, .finished .done)
  | .close connection => (stage.happen (.close connection), .finished .done)
  | .receive connection =>
    let (exchange, reception) := stage.receivers.receive connection.id stage.system.exchange
    (stage.withReceivers stage.receivers exchange, .finished (.received reception))
  | .dropReceiver connection =>
    let (receivers, exchange, found) :=
      stage.receivers.drop connection.id stage.system.exchange
    (stage.withReceivers receivers exchange, .finished (.changed found))
  | .groupsOf connection =>
    (stage, .finished (.groups (stage.system.exchange.groups.groupsOf connection)))
  | .describe subject => (stage, .finished (.text (stage.describe subject)))
  | .survey further =>
    let system := { stage.system with board := stage.system.board.tabulate }
    ({ stage with system := system }, .finished (.surveyed (stage.survey further)))
  | .hook hook =>
    ({ stage with hooks := stage.hooks ++ [⟨hook, hook.times⟩] }, .finished .done)
  | .unhook => ({ stage with hooks := [] }, .finished .done)
  | .wait millis =>
    if millis = 0 then (stage, .finished .done)
    else
      let (stage, timer) := stage.setTimer millis
      (stage, .sleeping timer .done)
  | .cancel after step =>
    let (stage, inner) := stage.begin step
    let (stage, timer) := stage.setTimer after
    (stage, .limited timer inner)
  | .detach step =>
    let (stage, inner) := stage.begin step
    (stage, .detached inner)
  | .work changes impatient =>
    let position := stage.system.workers.length
    let (stage, left) := (stage.happen .hire).send position changes
    let unsent := if impatient then [] else left
    let stage := if unsent.isEmpty then stage.happen (.dismiss position) else stage
    let (stage, since) := stage.stamp
    ({ stage with tasks := stage.tasks ++ [.worker position since since] },
      .working stage.tasks.length unsent (changes.length - left.length))

/-- What a step in progress reports, once it is over. -/
def replyOf? (stage : Stage) : Doing → Option Reply
  | .finished reply => some reply
  | .awaiting strands none =>
    match strands with
    | [position] => (stage.strand position).conclusion?.map .concluded
    | _ => none
  | .awaiting strands (some users) =>
    (strands.mapM fun position => (stage.strand position).conclusion?).map fun conclusions =>
      .visited (users.zip conclusions)
  | .working task _ accepted =>
    match stage.worker? task with
    | some (worker, _) => if worker.hasLeft then some (.worked accepted worker.processed) else none
    | none => none
  | _ => none

/-- Take note of what a step reported: a step of the main script is entered with everything that
happened meanwhile, a step of an interlude is kept for that. -/
def note (stage : Stage) (isMain : Bool) (reply : Reply) : Stage :=
  if isMain then
    let log := stage.system.exchange.log
    { stage with
      entries := stage.entries ++ [⟨reply, stage.interludes, log.drop stage.callsSeen⟩]
      interludes := []
      callsSeen := log.length }
  else { stage with interludes := stage.interludes ++ [reply] }

end Stage
end ChannelMembership
