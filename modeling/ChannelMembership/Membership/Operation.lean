import ChannelMembership.Transport.Exchange

/-!
# Membership operations and reports

An operation puts one connection into one group or takes it out.  A report says for whom operations
were issued and what became of each; an operation that failed does not keep the others from being
carried out.
-/

namespace ChannelMembership

/-- The two ways to change a membership. -/
inductive Action where
  | join
  | leave
  deriving DecidableEq

/-- One change of membership. -/
structure Operation where
  /-- Whether the connection joins or leaves. -/
  action : Action
  /-- The connection concerned. -/
  connection : Connection
  /-- The channel concerned. -/
  channel : Channel
  deriving DecidableEq

namespace Operation

/-- The operation that puts a connection into a group. -/
def join (connection : Connection) (channel : Channel) : Operation := ⟨.join, connection, channel⟩

/-- The operation that takes a connection out of a group. -/
def leave (connection : Connection) (channel : Channel) : Operation := ⟨.leave, connection, channel⟩

/-- The call to the transport that carries out an operation. -/
def call (operation : Operation) : Call :=
  match operation.action with
  | .join => .join operation.connection operation.channel
  | .leave => .leave operation.connection operation.channel

/-- Whether an operation comes no later than another: joins before leaves, then by connection, then
by channel. -/
def precedes (a b : Operation) : Bool :=
  match a.action, b.action with
  | .join, .leave => true
  | .leave, .join => false
  | _, _ =>
    if a.connection = b.connection then a.channel ≤ b.channel else a.connection ≤ b.connection

/-- The set of the given operations, in order. -/
def sorted (operations : List Operation) : List Operation :=
  Ascending.ofList precedes operations

end Operation

/-- What became of the operations issued for one user. -/
structure Report where
  /-- The user for whom they were issued. -/
  user : Option UserKey
  /-- How many connections were covered. -/
  connections : Nat
  /-- The operations that succeeded, in order of completion. -/
  applied : List Operation
  /-- The operations that failed, with the reason, in order of completion. -/
  failures : List (Operation × TransportError)
  deriving DecidableEq

namespace Report

/-- A report without operations. -/
def start (user : UserKey) (connections : Nat) : Report := ⟨some user, connections, [], []⟩

/-- The report about nothing and nobody. -/
def blank : Report := ⟨none, 0, [], []⟩

/-- Record what became of an operation. -/
def record (report : Report) (operation : Operation) : Delivery → Report
  | .ok () => { report with applied := report.applied ++ [operation] }
  | .error error => { report with failures := report.failures ++ [(operation, error)] }

/-- The successful joins. -/
def joined (report : Report) : List Operation :=
  report.applied.filter fun operation => operation.action = .join

/-- The successful leaves. -/
def left (report : Report) : List Operation :=
  report.applied.filter fun operation => operation.action = .leave

/-- Whether every operation succeeded. -/
def isClean (report : Report) : Bool := report.failures.isEmpty

/-- The report with its lists grouped by connection in name order; within a connection the order of
completion is kept. -/
def byConnection (report : Report) : Report :=
  { report with
    applied := Ascending.sort (fun a b => a.connection ≤ b.connection) report.applied
    failures := Ascending.sort (fun a b => a.1.connection ≤ b.1.connection) report.failures }

end Report

/-- What became of a request to bring a user's memberships up to date. -/
inductive Outcome where
  /-- The user has no live connection. -/
  | noConnections
  /-- Work for the user was already under way and takes over this request. -/
  | coalesced
  /-- Every connection was reconciled with what the principal is authorised for. -/
  | applied (report : Report)
  /-- Every connection left every known channel. -/
  | revoked (report : Report)
  deriving DecidableEq

end ChannelMembership
