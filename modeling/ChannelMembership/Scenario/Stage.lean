import ChannelMembership.Scenario.Script

/-!
# The stage

The state of a trial: the system, a clock that counts milliseconds, the armed hooks, the answers
that hooks hold up, the script being played, and the tasks in the background.
-/

namespace ChannelMembership

/-- A moment at which something is due; of two moments at the same time the one set first comes
first. -/
structure Timer where
  /-- The time. -/
  due : Nat
  /-- How many timers were set before. -/
  order : Nat
  deriving DecidableEq

/-- What the whole system looks like at some moment. -/
structure Survey where
  /-- The users who are online with their connections. -/
  presence : List (UserKey × List Connection)
  /-- How many connections are live. -/
  connectionCount : Nat
  /-- The channels looked at that have members, with their members. -/
  groups : List (Channel × List Connection)
  /-- How many questions were put to each labelled guard. -/
  questions : List Nat
  /-- How often the account store was asked. -/
  lookups : Nat
  /-- How many calls were made to fail by interference, if there is any. -/
  injected : Option Nat

/-- What a step reports when it is over. -/
inductive Reply where
  /-- It was carried out. -/
  | done
  /-- Whether it changed anything. -/
  | changed (flag : Bool)
  /-- How a request ended. -/
  | concluded (conclusion : Conclusion)
  /-- How a permission change ended for each user concerned. -/
  | visited (users : List (UserKey × Conclusion))
  /-- How many changes a worker was given, and how many it applied. -/
  | worked (accepted processed : Nat)
  /-- The step was given up. -/
  | cancelled
  /-- What was received. -/
  | received (reception : Reception)
  /-- The groups of a connection. -/
  | groups (channels : List Channel)
  /-- A description. -/
  | text (text : String)
  /-- The state of the system. -/
  | surveyed (survey : Survey)

/-- What a step in progress is waiting for. -/
inductive Doing where
  /-- For strands to end; of a permission change the users are reported. -/
  | awaiting (strands : List Nat) (users : Option (List UserKey))
  /-- For a moment to come. -/
  | sleeping (timer : Timer) (reply : Reply)
  /-- For an inner step, until its time runs out. -/
  | limited (timer : Timer) (inner : Doing)
  /-- For an inner step, as far as it goes without waiting. -/
  | detached (inner : Doing)
  /-- For the worker of a task, to whom changes are still to be sent. -/
  | working (task : Nat) (unsent : List Audience) (accepted : Nat)
  /-- For nothing. -/
  | finished (reply : Reply)

/-- A script being played. -/
structure Frame where
  /-- The step in progress. -/
  current : Option Doing
  /-- The steps to come. -/
  rest : List Step

namespace Frame

/-- Whether the script has been played to its end. -/
def isOver (frame : Frame) : Bool := frame.current.isNone && frame.rest.isEmpty

end Frame

/-- How a held-up answer finally comes about. -/
inductive Ending where
  /-- As it would have without a hook, or by failing. -/
  | passage (passage : Passage)
  /-- Never. -/
  | stall

/-- How an awaited answer is held up. -/
inductive Hold where
  /-- An interlude is being played, after which some time passes. -/
  | playing (frame : Frame) (delay : Nat) (ending : Ending)
  /-- Time passes. -/
  | sleeping (timer : Timer) (ending : Ending)
  /-- The answer never comes. -/
  | stalled

/-- Something that goes on in the background. -/
inductive Task where
  /-- The oldest work left undone is to be resumed. -/
  | resumption (since : Timer)
  /-- A resumed run. -/
  | strand (position : Nat)
  /-- A worker.  It was last roused when it got something to do, and it last answered when it gave
  its sender something to go on with. -/
  | worker (position : Nat) (roused answered : Timer)

/-- An armed hook and how often it may still act. -/
structure Armed where
  /-- The hook. -/
  hook : Hook Step
  /-- How often it may act; absent if there is no limit. -/
  left : Option Nat

/-- A step of the main script that is over, with what happened meanwhile. -/
structure Entry where
  /-- What the step reported. -/
  reply : Reply
  /-- What the steps of interludes reported that ended meanwhile. -/
  interludes : List Reply
  /-- The calls that reached the transport meanwhile. -/
  calls : List Call

namespace Entry

/-- The calls grouped by connection in name order, those about no connection first; within a
connection their order is kept. -/
def callsByConnection (entry : Entry) : List Call :=
  let name := fun (call : Call) => (call.connection?.map Connection.id).getD ""
  Ascending.sort (fun a b => name a ≤ name b) entry.calls

end Entry

/-- Whose turn it is. -/
inductive Turn where
  /-- The main script. -/
  | main
  /-- A task in the background. -/
  | task (position : Nat)
  deriving DecidableEq

/-- The state of a trial. -/
structure Stage where
  /-- The system. -/
  system : System
  /-- The receiving ends that are kept. -/
  receivers : Receivers
  /-- The time in milliseconds. -/
  now : Nat
  /-- How many timers were set so far. -/
  timersSet : Nat
  /-- The armed hooks, first armed first. -/
  hooks : List Armed
  /-- The answers that are held up. -/
  holds : List ((Nat × Spot) × Hold)
  /-- When the setup of a connection has to be over. -/
  deadlines : List (Nat × Timer)
  /-- Everything that was ever started in the background. -/
  tasks : List Task
  /-- Whose turn it is. -/
  turn : Turn
  /-- The main script. -/
  main : Frame
  /-- How many questions were put to each labelled guard. -/
  questions : List Nat
  /-- How often the account store was asked. -/
  lookups : Nat
  /-- What interludes reported since the main script's last step was over. -/
  interludes : List Reply
  /-- How many calls had reached the transport by then. -/
  callsSeen : Nat
  /-- The steps of the main script that are over. -/
  entries : List Entry

end ChannelMembership
