import ChannelMembership.Ascending
import ChannelMembership.Text.Hex

/-!
# Users, connections, channels and principals

A user is known by a 128-bit key, a connection and a channel by a name.  Names are compared as
plain strings; no normalisation takes place, so two names are equal exactly when they have the same
code points.  A principal is what is presented for authorisation: a key, if one is known, and the
claims it carries, in the order in which they were added.
-/

namespace ChannelMembership

/-- Keys are numbers of 128 bits. -/
abbrev keyBound : Nat := 0x100000000000000000000000000000000

/-- Stable key of a user. -/
structure UserKey where
  /-- The key as a bounded number. -/
  value : Fin keyBound
  deriving DecidableEq

namespace UserKey

/-- The key as a natural number. -/
def toNat (user : UserKey) : Nat := user.value.val

/-- The user with the given number, if the number is small enough to be a key. -/
def ofNat? (n : Nat) : Option UserKey :=
  if h : n < keyBound then some ⟨⟨n, h⟩⟩ else none

/-- The key written as 32 hexadecimal digits. -/
def hex (user : UserKey) : String :=
  String.ofList (Hex.fixed 32 user.toNat)

instance : LT UserKey := ⟨fun a b => a.value < b.value⟩

instance : LE UserKey := ⟨fun a b => a.value ≤ b.value⟩

instance (a b : UserKey) : Decidable (a < b) := inferInstanceAs (Decidable (a.value < b.value))

instance (a b : UserKey) : Decidable (a ≤ b) := inferInstanceAs (Decidable (a.value ≤ b.value))

instance : Std.IsLinearOrder UserKey where
  le_refl user := Nat.le_refl user.value.val
  le_trans _ _ _ := Nat.le_trans
  le_antisymm a b forth back := by
    obtain ⟨a⟩ := a
    obtain ⟨b⟩ := b
    exact congrArg UserKey.mk (Fin.le_antisymm forth back)
  le_total a b := Nat.le_total a.value.val b.value.val

end UserKey

/-- Identifier of one live transport session. -/
structure Connection where
  /-- The identifier chosen by the transport. -/
  id : String
  deriving DecidableEq

namespace Connection

instance : LE Connection := ⟨fun a b => a.id ≤ b.id⟩

instance (a b : Connection) : Decidable (a ≤ b) := inferInstanceAs (Decidable (a.id ≤ b.id))

instance : Std.IsLinearOrder Connection where
  le_refl connection := String.le_refl connection.id
  le_trans _ _ _ := String.le_trans
  le_antisymm a b forth back := by
    obtain ⟨a⟩ := a
    obtain ⟨b⟩ := b
    exact congrArg Connection.mk (String.le_antisymm forth back)
  le_total a b := String.le_total a.id b.id

end Connection

/-- Name of a broadcast channel. -/
structure Channel where
  /-- The plain name. -/
  name : String
  deriving DecidableEq

namespace Channel

instance : LE Channel := ⟨fun a b => a.name ≤ b.name⟩

instance (a b : Channel) : Decidable (a ≤ b) := inferInstanceAs (Decidable (a.name ≤ b.name))

instance : Std.IsLinearOrder Channel where
  le_refl channel := String.le_refl channel.name
  le_trans _ _ _ := String.le_trans
  le_antisymm a b forth back := by
    obtain ⟨a⟩ := a
    obtain ⟨b⟩ := b
    exact congrArg Channel.mk (String.le_antisymm forth back)
  le_total a b := String.le_total a.name b.name

/-- The last position of a channel in a list. -/
def lastPosition? (channels : List Channel) (channel : Channel) : Option Nat :=
  (channels.reverse.findIdx? (· = channel)).map fun distance => channels.length - 1 - distance

end Channel

/-- One claim of a principal: a kind, such as `role`, and a value. -/
structure Claim where
  /-- What the claim is about. -/
  kind : String
  /-- What is claimed. -/
  value : String
  deriving DecidableEq

namespace Claim

/-- The kind under which roles are claimed. -/
def roleKind : String := "role"

/-- The claim to hold a role. -/
def role (name : String) : Claim := ⟨roleKind, name⟩

end Claim

/-- An identity presented for authorisation. -/
structure Principal where
  /-- The user's key; absent for a principal that belongs to no known user. -/
  user : Option UserKey
  /-- The claims in the order in which they were added. -/
  claims : List Claim
  deriving DecidableEq

namespace Principal

/-- A known user without claims. -/
def ofUser (user : UserKey) : Principal := ⟨some user, []⟩

/-- A principal that belongs to no known user. -/
def unresolved : Principal := ⟨none, []⟩

/-- Add a claim at the end, unless the very same claim is already there. -/
def withClaim (principal : Principal) (claim : Claim) : Principal :=
  if claim ∈ principal.claims then principal
  else { principal with claims := principal.claims ++ [claim] }

/-- Add the claim to hold a role. -/
def withRole (principal : Principal) (name : String) : Principal :=
  principal.withClaim (Claim.role name)

/-- Whether the principal carries exactly this claim. -/
def holds (principal : Principal) (claim : Claim) : Bool :=
  decide (claim ∈ principal.claims)

/-- Whether the principal claims the role. -/
def hasRole (principal : Principal) (name : String) : Bool :=
  principal.holds (Claim.role name)

end Principal
end ChannelMembership
