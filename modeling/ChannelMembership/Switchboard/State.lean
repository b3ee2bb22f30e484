import ChannelMembership.Access.Partition
import ChannelMembership.Limits
import ChannelMembership.Membership.Batch
import ChannelMembership.Membership.Slot
import ChannelMembership.Presence
import ChannelMembership.Refusal
import ChannelMembership.Transport.Link

/-!
# The switchboard

What all requests share: the directory of guards, the live connections, the slots of the users, the
link to the transport and the store of user accounts.
-/

namespace ChannelMembership

/-- What the account store answers about a user. -/
inductive Account where
  /-- There is no such user, or not any more. -/
  | missing
  /-- The store cannot answer, for this reason. -/
  | failing (reason : String)
  /-- The store answers with an error of its own, which may name another user. -/
  | erring (error : LookupError)
  /-- The user's current principal. -/
  | known (principal : Principal)
  deriving DecidableEq

/-- How a call to the transport under way comes to its end. -/
inductive Passage where
  /-- It goes over the link. -/
  | through
  /-- It fails before it gets there. -/
  | blocked (error : TransportError)
  deriving DecidableEq

/-- The state that all requests share. -/
structure Switchboard where
  /-- Who governs which channel. -/
  directory : Directory
  /-- Whether the table of channels has been drawn up, which happens when it is first needed. -/
  tabulated : Bool
  /-- The limits of operation. -/
  limits : Limits
  /-- Which connections are live. -/
  presence : Presence
  /-- Where membership work of a user runs. -/
  slots : Slots
  /-- The link to the transport. -/
  link : Link
  /-- What the account store knows. -/
  accounts : UserKey → Account

namespace Switchboard

/-- A switchboard to which nothing has happened. -/
def initial (directory : Directory) (limits : Limits) (link : Link) : Switchboard where
  directory := directory
  tabulated := false
  limits := limits
  presence := Presence.empty
  slots := Slots.idle
  link := link
  accounts := fun _ => .missing

/-- Draw up the table of channels. -/
def tabulate (board : Switchboard) : Switchboard := { board with tabulated := true }

/-- Bring a call to the transport to its end. -/
def call (board : Switchboard) (passage : Passage) (call : Call) : Switchboard × Delivery :=
  match passage with
  | .blocked error => (board, .error error)
  | .through =>
    let (link, delivery) := board.link.request call
    ({ board with link := link }, delivery)

/-- How many calls to the transport one piece of work may have under way. -/
def bound (board : Switchboard) : Nat := board.limits.callsUnderWay.val

/-- How many permission changes a queue can hold; a capacity of zero counts as one. -/
def queueCapacity (board : Switchboard) : Nat := atLeastOne board.limits.changesQueued.val

/-- The operations that take a connection out of every known channel. -/
def leaveAll (board : Switchboard) (connection : Connection) : List Operation :=
  board.directory.channels.map (Operation.leave connection)

/-- Set what the account store knows about a user. -/
def setAccount (board : Switchboard) (user : UserKey) (account : Account) : Switchboard :=
  { board with
    accounts := fun other => if other = user then account else board.accounts other }

end Switchboard

namespace Batch

/-- Bring an operation that is under way to its end. -/
def perform (batch : Batch) (board : Switchboard) (passage : Passage) (operation : Operation) :
    Switchboard × Batch :=
  if operation ∈ batch.underWay then
    let (board, delivery) := board.call passage operation.call
    (board, batch.complete operation delivery)
  else (board, batch)

end Batch
end ChannelMembership
