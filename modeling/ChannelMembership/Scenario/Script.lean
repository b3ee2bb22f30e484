import ChannelMembership.Switchboard.System
import ChannelMembership.Transport.Receivers

/-!
# Scripts

A script is a list of steps for a trial of the whole system.  Besides making requests a step can arm
a hook.  A hook waits for an answer of a certain kind to be awaited; before that answer comes about
it plays an interlude of further steps, lets time pass, and then lets the answer through, makes it
fail, or holds it back for ever.
-/

namespace ChannelMembership

/-- Which awaited answers a hook is about; an absent component admits any. -/
inductive Trigger where
  /-- The answer of a guard. -/
  | guard (label : Option Nat) (channel : Option Channel)
  /-- The completion of a join. -/
  | join (connection : Option Connection) (channel : Option Channel)
  /-- The completion of a leave. -/
  | leave (connection : Option Connection) (channel : Option Channel)
  /-- The completion of a publication. -/
  | publish (channel : Option Channel)
  /-- The completion of a copy to one connection. -/
  | send (connection : Option Connection)
  /-- The answer of the account store. -/
  | account (user : Option UserKey)

/-- How a hook makes a call to the transport fail. -/
inductive Fault where
  /-- As if the connection were not open. -/
  | closed
  /-- As if the transport had failed. -/
  | failed (reason : String)

/-- What happens before an awaited answer comes about. -/
structure Hook (σ : Type) where
  /-- The answers it is about. -/
  trigger : Trigger
  /-- Steps to be played first. -/
  interlude : List σ
  /-- Milliseconds to let pass after that. -/
  delay : Nat
  /-- Whether the answer is held back for ever. -/
  stall : Bool
  /-- How a call to the transport is made to fail, if it is. -/
  fault : Option Fault
  /-- How often the hook acts; absent if there is no limit. -/
  times : Option Nat

/-- What can be described in one line. -/
inductive Subject where
  /-- The whole switchboard. -/
  | switchboard
  /-- The part that keeps memberships. -/
  | membership
  /-- The part that publishes notices. -/
  | routing
  /-- Who is online. -/
  | presence
  /-- The transport's own bookkeeping. -/
  | exchange
  /-- The part that authorises principals. -/
  | access
  /-- The limits of operation. -/
  | limits
  deriving DecidableEq

/-- One step of a script. -/
inductive Step where
  /-- Make a request and wait until it is over. -/
  | request (request : Request)
  /-- Remove a connection from its user. -/
  | disconnect (user : UserKey) (connection : Connection)
  /-- Register a connection and nothing else. -/
  | register (user : UserKey) (connection : Connection)
  /-- Change what the account store knows. -/
  | setAccount (user : UserKey) (account : Account)
  /-- Let the transport open a connection, whose receiving end is kept under its own name. -/
  | open (connection : Connection)
  /-- Let the transport close a connection. -/
  | close (connection : Connection)
  /-- Take the next notice for a connection. -/
  | receive (connection : Connection)
  /-- Drop the receiving end of a connection. -/
  | dropReceiver (connection : Connection)
  /-- List the groups of a connection. -/
  | groupsOf (connection : Connection)
  /-- Describe a part of the system. -/
  | describe (subject : Subject)
  /-- Take stock of the system; the groups of further channels are looked at, too. -/
  | survey (channels : List Channel)
  /-- Arm a hook. -/
  | hook (hook : Hook Step)
  /-- Remove all hooks. -/
  | unhook
  /-- Let time pass. -/
  | wait (millis : Nat)
  /-- Play a step, give it up if it is not over in time, and let a millisecond pass. -/
  | cancel (after : Nat) (step : Step)
  /-- Play a step as far as it goes without waiting, then give it up for good. -/
  | detach (step : Step)
  /-- Have permission changes applied one after the other by a worker with a bounded queue.  An
  impatient sender does not wait for room in the queue. -/
  | work (changes : List Audience) (impatient : Bool)

end ChannelMembership
