import ChannelMembership.Transport.Notice
import ChannelMembership.Transport.Failure

/-!
# Outboxes

Opening a connection creates a new outbox.  The transport appends notices to the outbox that is
currently open for the connection; the holder of the receiving end takes them out in the same order.
An outbox whose connection was closed or opened anew is detached: what is queued can still be taken,
after that it is known to be disconnected.  Nothing is queued any more once the receiving end has
been dropped.
-/

namespace ChannelMembership

/-- One outbox with its receiving end. -/
structure Outbox where
  /-- Notices that were queued and not yet taken, oldest first. -/
  queued : List Notice
  /-- Whether the transport may still append to it. -/
  attached : Bool
  /-- Whether the receiving end still exists. -/
  received : Bool

namespace Outbox

/-- An outbox that was just opened. -/
def fresh : Outbox := ⟨[], true, true⟩

/-- Append a notice. -/
def push (outbox : Outbox) (notice : Notice) : Outbox :=
  { outbox with queued := outbox.queued ++ [notice] }

end Outbox

/-- What the holder of a receiving end finds. -/
inductive Reception where
  /-- The oldest queued notice. -/
  | notice (notice : Notice)
  /-- Nothing is queued at the moment. -/
  | empty
  /-- Nothing is queued, and nothing will ever be. -/
  | disconnected
  /-- There is no such receiving end. -/
  | absent
  deriving DecidableEq

/-- All outboxes ever opened, and which of them is the current one of each connection. -/
structure Outboxes where
  /-- The outboxes; an outbox is known by its position. -/
  boxes : List Outbox
  /-- The current outbox of each open connection. -/
  current : List (Connection × Nat)

namespace Outboxes

/-- No connection was ever opened. -/
def empty : Outboxes := ⟨[], []⟩

/-- The position of the current outbox of a connection. -/
def currentOf (outboxes : Outboxes) (connection : Connection) : Option Nat :=
  outboxes.current.lookup connection

/-- Close a connection: its outbox is detached. -/
def close (outboxes : Outboxes) (connection : Connection) : Outboxes where
  boxes :=
    match outboxes.currentOf connection with
    | some position =>
      outboxes.boxes.modify position fun outbox => { outbox with attached := false }
    | none => outboxes.boxes
  current := outboxes.current.filter fun entry => entry.1 ≠ connection

/-- Open a connection with a fresh outbox, which takes the place of an earlier one.  The new outbox
is the last one. -/
def «open» (outboxes : Outboxes) (connection : Connection) : Outboxes :=
  let closed := outboxes.close connection
  { boxes := closed.boxes ++ [Outbox.fresh]
    current := (connection, closed.boxes.length) :: closed.current }

/-- The number of open connections. -/
def openCount (outboxes : Outboxes) : Nat := outboxes.current.length

/-- The position of the outbox that a notice for the connection would reach now. -/
def reachable (outboxes : Outboxes) (connection : Connection) : Option Nat :=
  match outboxes.currentOf connection with
  | none => none
  | some position =>
    if (outboxes.boxes[position]?).any Outbox.received then some position else none

/-- Hand a notice to a connection; it fails when nobody can receive it. -/
def deliver (outboxes : Outboxes) (connection : Connection) (notice : Notice) :
    Outboxes × Delivery :=
  match outboxes.reachable connection with
  | none => (outboxes, .error (.notOpen connection))
  | some position =>
    ({ outboxes with boxes := outboxes.boxes.modify position (·.push notice) }, .ok ())

/-- Take the oldest notice out of an outbox. -/
def take (outboxes : Outboxes) (position : Nat) : Outboxes × Reception :=
  match outboxes.boxes[position]? with
  | none => (outboxes, .absent)
  | some outbox =>
    match outbox.queued with
    | notice :: rest =>
      ({ outboxes with boxes := outboxes.boxes.set position { outbox with queued := rest } },
        .notice notice)
    | [] => (outboxes, if outbox.attached then .empty else .disconnected)

/-- Drop the receiving end of an outbox; what was queued is lost. -/
def drop (outboxes : Outboxes) (position : Nat) : Outboxes :=
  { outboxes with
    boxes := outboxes.boxes.modify position fun outbox =>
      { outbox with queued := [], received := false } }

end Outboxes
end ChannelMembership
