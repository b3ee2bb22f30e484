import ChannelMembership.Transport.Failure

/-!
# Refusals

The reasons for which a request is refused or given up, from the innermost to the outermost.  Every
refusal has a text, and its causes are the texts of the refusals it wraps, outermost first.
-/

namespace ChannelMembership

/-- Why memberships could not be determined. -/
inductive MembershipError where
  /-- The principal belongs to no known user. -/
  | unresolved
  /-- A channel is listed, but nobody governs it. -/
  | ungoverned (channel : Channel)
  deriving DecidableEq

namespace MembershipError

/-- The text about a channel that is listed without a guard. -/
def ungovernedText (channel : Channel) : String :=
  "channel " ++ channel.name ++ " is indexed without any authorizer"

/-- The refusal in words. -/
def message : MembershipError → String
  | unresolved => "principal has no resolvable user key"
  | ungoverned channel => "authorization failed: " ++ ungovernedText channel

/-- The causes of the refusal. -/
def causes : MembershipError → List String
  | unresolved => []
  | ungoverned channel => [ungovernedText channel]

end MembershipError

/-- Why a notice was not published. -/
inductive RoutingError where
  /-- Nobody governs the channel of the notice. -/
  | ungoverned (channel : Channel)
  /-- The transport did not publish it. -/
  | transport (error : TransportError)
  deriving DecidableEq

namespace RoutingError

/-- The refusal in words. -/
def message : RoutingError → String
  | ungoverned channel => "no authorizer governs channel " ++ channel.name
  | transport error => "gateway error: " ++ error.message

/-- The causes of the refusal. -/
def causes : RoutingError → List String
  | ungoverned _ => []
  | transport error => [error.message]

end RoutingError

/-- Why the principal of a user could not be looked up. -/
structure LookupError where
  /-- The user. -/
  user : UserKey
  /-- What went wrong. -/
  reason : String
  deriving DecidableEq

namespace LookupError

/-- The refusal in words. -/
def message (error : LookupError) : String :=
  "failed to resolve principal for user " ++ error.user.hex ++ ": " ++ error.reason

/-- The account store answered with the principal of somebody else. -/
def stranger (user : UserKey) : LookupError :=
  ⟨user, "resolved principal belongs to another user"⟩

end LookupError

/-- Why a connection was refused or a user's memberships could not be brought up to date. -/
inductive SessionError where
  /-- The principal that connects belongs to no known user. -/
  | unauthenticated (connection : Connection)
  /-- Memberships could not be determined. -/
  | membership (error : MembershipError)
  /-- The user's principal could not be looked up. -/
  | lookup (error : LookupError)
  deriving DecidableEq

namespace SessionError

/-- The refusal in words. -/
def message : SessionError → String
  | unauthenticated connection =>
    "connection " ++ connection.id ++ " has no authenticated user"
  | membership error => "coordinator error: " ++ error.message
  | lookup error => "resolver error: " ++ error.message

/-- The causes of the refusal. -/
def causes : SessionError → List String
  | unauthenticated _ => []
  | membership error => error.message :: error.causes
  | lookup error => [error.message]

end SessionError
end ChannelMembership
