import ChannelMembership.Switchboard.State

/-!
# Spots

While a request is under way, it waits for answers from outside: from a guard, the transport or the
account store.  A spot is a place at which such an answer is awaited, and an inquiry is what is
asked there.
-/

namespace ChannelMembership

/-- A place at which an answer from outside is awaited. -/
inductive Spot where
  /-- The lane of a channel, where a guard is being asked. -/
  | question (channel : Channel)
  /-- An operation under way. -/
  | operation (operation : Operation)
  /-- The look-up of the user's account. -/
  | account
  /-- The publication of a notice. -/
  | publication
  /-- The copy of a notice for one connection. -/
  | copy (connection : Connection)
  deriving DecidableEq

namespace Spot

/-- Whether an operation is awaited there. -/
def isOperation : Spot → Bool
  | operation _ => true
  | _ => false

end Spot

/-- What is asked at a spot. -/
inductive Inquiry where
  /-- A guard is asked about a channel. -/
  | guard (guard : Guard) (channel : Channel)
  /-- The transport is called. -/
  | transport (call : Call)
  /-- The account store is asked about a user. -/
  | account (user : UserKey)

end ChannelMembership
