import ChannelMembership.Switchboard.State
import ChannelMembership.Text.Braced

/-!
# Overviews

One-line descriptions of the parts of a switchboard, for people who watch it.
-/

namespace ChannelMembership

namespace Duration

/-- A whole number of units and a fraction given by its digits; trailing zeros are not written. -/
def fractional (whole part places : Nat) (unit : String) : String :=
  let digits := (toString part).toList
  let padded := List.replicate (places - digits.length) '0' ++ digits
  let shown := (padded.reverse.dropWhile (· = '0')).reverse
  toString whole ++ (if part = 0 then "" else "." ++ String.ofList shown) ++ unit

/-- A span of time in the largest unit that leaves a whole part. -/
def overview (duration : Duration) : String :=
  let nanoseconds := duration.nanoseconds.val
  if 0 < duration.seconds.val then fractional duration.seconds.val nanoseconds 9 "s"
  else if 1000000 ≤ nanoseconds then
    fractional (nanoseconds / 1000000) (nanoseconds % 1000000) 6 "ms"
  else if 1000 ≤ nanoseconds then fractional (nanoseconds / 1000) (nanoseconds % 1000) 3 "µs"
  else toString nanoseconds ++ "ns"

end Duration

namespace Channel

/-- A channel with its name in quotes. -/
def overview (channel : Channel) : String := Braced.wrapped "Channel" (Quoted.quote channel.name)

end Channel

namespace Guard

/-- A guard that asks for one policy. -/
def policyOverview (policy : String) (channels : List Channel) : String :=
  Braced.fields "PolicyAuthorizer"
    [("policy", Quoted.quote policy), ("channels", Braced.sequence (channels.map Channel.overview))]
    true

/-- A guard that admits every known user. -/
def selfOverview (channels : List Channel) : String :=
  Braced.fields "SelfAuthorizer"
    [("channels", Braced.sequence (channels.map Channel.overview))] false

end Guard

namespace Directory

/-- A directory that is still being put together. -/
def draftOverview (directory : Directory) : String :=
  Braced.fields "AuthorizerIndexBuilder"
    [("authorizer_count", toString directory.guards.length)] false

/-- A directory, and whether its table of channels has been drawn up. -/
def overview (directory : Directory) (tabulated : Bool) : String :=
  Braced.fields "AuthorizerIndex"
    [("authorizer_count", toString directory.guards.length), ("built", Braced.truth tabulated)]
    false

end Directory

namespace Presence

/-- The users who are online and their connections. -/
def overview (presence : Presence) : String :=
  let connections := fun user =>
    (presence.connections user).map fun connection =>
      Braced.wrapped "ConnectionId" (Quoted.quote connection.id)
  Braced.fields "ConnectionRegistry"
    [("users", Braced.map (presence.users.map fun user =>
      (Braced.wrapped "UserKey" (toString user.toNat), Braced.set (connections user))))]
    false

end Presence

namespace Exchange

/-- How many groups and open connections there are. -/
def overview (exchange : Exchange) : String :=
  Braced.fields "MemoryGateway"
    [("group_count", toString exchange.groups.count),
      ("open_connections", toString exchange.outboxes.openCount)]
    false

end Exchange

namespace Limits

/-- The limits of operation. -/
def overview (limits : Limits) : String :=
  Braced.fields "HubConfig"
    [("handshake_timeout", limits.handshake.overview),
      ("max_concurrent_gateway_ops", toString limits.callsUnderWay.val),
      ("change_queue_capacity", toString limits.changesQueued.val)]
    false

end Limits

namespace Switchboard

/-- The part that authorises principals. -/
def accessOverview (board : Switchboard) : String :=
  Braced.fields "AuthorizationEngine" [("index", board.directory.overview board.tabulated)] false

/-- The part that keeps memberships. -/
def membershipOverview (board : Switchboard) : String :=
  Braced.fields "MembershipCoordinator"
    [("engine", board.accessOverview), ("registry", board.presence.overview),
      ("max_concurrent_ops", toString (atLeastOne board.bound))]
    true

/-- The part that publishes notices. -/
def routingOverview (board : Switchboard) : String :=
  Braced.fields "EventRouter"
    [("index", board.directory.overview board.tabulated), ("registry", board.presence.overview)]
    true

/-- The whole switchboard. -/
def overview (board : Switchboard) : String :=
  Braced.fields "Hub"
    [("coordinator", board.membershipOverview), ("config", board.limits.overview)] true

end Switchboard
end ChannelMembership
