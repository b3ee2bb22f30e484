import ChannelMembership.Access.ClaimTable

/-!
# Guards

A guard declares the channels it governs and decides whether a principal may receive what happens
on one of them.  Its decision is a function of principal and channel; a guard knows nothing about
connections.
-/

namespace ChannelMembership

/-- An authority over some channels. -/
structure Guard where
  /-- Name of the guard. -/
  name : String
  /-- The channels it declares, in its own order and possibly with repetitions. -/
  channels : List Channel
  /-- The number under which questions put to the guard are counted, if they are counted. -/
  label : Option Nat
  /-- Its decision about a principal on a channel. -/
  decide : Principal → Channel → Verdict

namespace Guard

/-- Whether the guard declares a channel. -/
def declares (guard : Guard) (channel : Channel) : Bool :=
  guard.channels.contains channel

/-- A guard that grants its channels to whoever satisfies one policy. -/
def ofPolicy (rule : PolicyRule) (policy : String) (channels : List Channel) : Guard where
  name := "policy:" ++ policy
  channels := channels
  label := none
  decide := fun principal _ => rule principal policy

/-- A guard that grants its channels to every principal of a known user. -/
def ofSelf (channels : List Channel) : Guard where
  name := "self"
  channels := channels
  label := none
  decide := fun principal _ => .ok principal.user.isSome

/-- A guard that grants its channels to whoever claims a role. -/
def ofRole (name role : String) (channels : List Channel) : Guard where
  name := name
  channels := channels
  label := none
  decide := fun principal _ => .ok (principal.hasRole role)

/-- A guard that always gives the same answer. -/
def constant (name : String) (verdict : Verdict) (channels : List Channel) : Guard where
  name := name
  channels := channels
  label := none
  decide := fun _ _ => verdict

/-- A guard that grants its channels except to the listed pairs of user and channel; a principal of
no known user stands in the list under the number zero. -/
def exceptFor (name : String) (denied : List (Nat × Channel)) (channels : List Channel) :
    Guard where
  name := name
  channels := channels
  label := none
  decide := fun principal channel =>
    .ok (!denied.contains ((principal.user.map UserKey.toNat).getD 0, channel))

/-- The same guard, its questions counted under a number. -/
def labelled (guard : Guard) (label : Nat) : Guard := { guard with label := some label }

end Guard
end ChannelMembership
