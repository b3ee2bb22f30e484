import ChannelMembership.Identity

/-!
# Failures of the transport
-/

namespace ChannelMembership

/-- Why the transport did not carry out a call. -/
inductive TransportError where
  /-- The connection is not open on the transport. -/
  | notOpen (connection : Connection)
  /-- The transport itself failed. -/
  | failed (reason : String)
  deriving DecidableEq

namespace TransportError

/-- The error in words. -/
def message : TransportError → String
  | notOpen connection => "connection " ++ connection.id ++ " is not open"
  | failed reason => "transport failure: " ++ reason

end TransportError

/-- What became of a call to the transport. -/
abbrev Delivery := Except TransportError Unit

end ChannelMembership
