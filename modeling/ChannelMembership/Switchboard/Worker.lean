import ChannelMembership.Switchboard.Request

/-!
# Workers

A worker applies permission changes one after the other, in the order in which they were sent to its
bounded queue.  It takes up the next change only when the strands of the last one have ended, and it
leaves when nothing is queued and nobody can send any more.
-/

namespace ChannelMembership

/-- A worker with its queue. -/
structure Worker where
  /-- Changes sent and not yet taken up, oldest first. -/
  queue : List Audience
  /-- Whether more changes may still be sent. -/
  isOpen : Bool
  /-- The strands of the change being applied. -/
  current : Option (List Nat)
  /-- How many changes were applied. -/
  processed : Nat
  /-- Whether the worker has left. -/
  hasLeft : Bool

namespace Worker

/-- A worker to whom nothing was sent yet. -/
def fresh : Worker := ⟨[], true, none, 0, false⟩

/-- Whether a change can be sent to a queue of this capacity. -/
def hasRoom (worker : Worker) (capacity : Nat) : Bool :=
  worker.isOpen && worker.queue.length < capacity

/-- Send a change; one for which there is no room is turned away. -/
def offer (worker : Worker) (capacity : Nat) (audience : Audience) : Worker :=
  if worker.hasRoom capacity then { worker with queue := worker.queue ++ [audience] } else worker

/-- Nobody can send any more. -/
def close (worker : Worker) : Worker := { worker with isOpen := false }

end Worker
end ChannelMembership
