import ChannelMembership.Transport.Groups
import ChannelMembership.Transport.Outbox

/-!
# The exchange

The transport's own bookkeeping: groups, outboxes and a log of the calls it received.  Joining and
leaving always succeed; publishing hands a copy of the notice to every member that can receive it
and succeeds whatever becomes of the copies; sending to one connection fails when that connection
cannot receive.
-/

namespace ChannelMembership

/-- A call to the transport. -/
inductive Call where
  /-- Put a connection into a group. -/
  | join (connection : Connection) (channel : Channel)
  /-- Take a connection out of a group. -/
  | leave (connection : Connection) (channel : Channel)
  /-- Hand a notice to every member of a group. -/
  | publish (channel : Channel) (notice : Notice)
  /-- Hand a notice to one connection. -/
  | send (connection : Connection) (notice : Notice)
  deriving DecidableEq

namespace Call

/-- The connection that a call is about; a publication is about none. -/
def connection? : Call → Option Connection
  | join connection _ | leave connection _ | send connection _ => some connection
  | publish _ _ => none

/-- The name of the kind of call. -/
def kind : Call → String
  | join _ _ => "join"
  | leave _ _ => "leave"
  | publish _ _ => "publish"
  | send _ _ => "send"

end Call

/-- The state of the transport. -/
structure Exchange where
  /-- Group membership. -/
  groups : Groups
  /-- Outboxes of the connections. -/
  outboxes : Outboxes
  /-- The calls received, oldest first. -/
  log : List Call

namespace Exchange

/-- No groups, no open connections, no calls. -/
def empty : Exchange := ⟨Groups.empty, Outboxes.empty, []⟩

/-- Open a connection. -/
def «open» (exchange : Exchange) (connection : Connection) : Exchange :=
  { exchange with outboxes := exchange.outboxes.open connection }

/-- Close a connection: its outbox is detached and it is taken out of every group. -/
def close (exchange : Exchange) (connection : Connection) : Exchange :=
  { exchange with
    groups := exchange.groups.expel connection
    outboxes := exchange.outboxes.close connection }

/-- Forget the calls received so far. -/
def clearLog (exchange : Exchange) : Exchange := { exchange with log := [] }

/-- Hand a notice to several connections, whatever becomes of each. -/
def deliverAll (outboxes : Outboxes) (notice : Notice) : List Connection → Outboxes
  | [] => outboxes
  | connection :: rest => deliverAll (outboxes.deliver connection notice).1 notice rest

/-- What a call does, apart from being logged. -/
def carryOut (exchange : Exchange) : Call → Exchange × Delivery
  | .join connection channel =>
    ({ exchange with groups := exchange.groups.join connection channel }, .ok ())
  | .leave connection channel =>
    ({ exchange with groups := exchange.groups.leave connection channel }, .ok ())
  | .publish channel notice =>
    ({ exchange with
        outboxes := deliverAll exchange.outboxes notice (exchange.groups.members channel) }, .ok ())
  | .send connection notice =>
    let (outboxes, delivery) := exchange.outboxes.deliver connection notice
    ({ exchange with outboxes := outboxes }, delivery)

/-- Log a call and carry it out. -/
def accept (exchange : Exchange) (call : Call) : Exchange × Delivery :=
  { exchange with log := exchange.log ++ [call] }.carryOut call

end Exchange
end ChannelMembership
