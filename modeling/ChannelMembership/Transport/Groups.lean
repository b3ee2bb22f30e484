import ChannelMembership.Identity
import ChannelMembership.PairSet

/-!
# Groups

Group membership is one relation between channels and connections.  The members of a channel, the
groups of a connection and the membership test are three views of it; a channel without members
leaves no trace.
-/

namespace ChannelMembership

/-- Which connection belongs to the group of which channel. -/
structure Groups where
  /-- The pairs of a channel and a member of its group. -/
  membership : PairSet Channel Connection

namespace Groups

/-- No group has a member. -/
def empty : Groups := ⟨PairSet.empty⟩

/-- Whether a connection is in the group of a channel. -/
def isMember (groups : Groups) (channel : Channel) (connection : Connection) : Bool :=
  groups.membership.relates channel connection

/-- Put a connection into the group of a channel. -/
def join (groups : Groups) (connection : Connection) (channel : Channel) : Groups :=
  ⟨(groups.membership.insert channel connection).1⟩

/-- Take a connection out of the group of a channel. -/
def leave (groups : Groups) (connection : Connection) (channel : Channel) : Groups :=
  ⟨(groups.membership.erase channel connection).1⟩

/-- Take a connection out of every group. -/
def expel (groups : Groups) (connection : Connection) : Groups :=
  ⟨groups.membership.eraseRight connection⟩

@[simp]
theorem isMember_join (groups : Groups) (connection member : Connection)
    (channel group : Channel) :
    (groups.join connection channel).isMember group member = true ↔
      (group = channel ∧ member = connection) ∨ groups.isMember group member = true :=
  PairSet.relates_insert _ _ _ _ _

@[simp]
theorem isMember_leave (groups : Groups) (connection member : Connection)
    (channel group : Channel) :
    (groups.leave connection channel).isMember group member = true ↔
      ¬(group = channel ∧ member = connection) ∧ groups.isMember group member = true :=
  PairSet.relates_erase _ _ _ _ _

@[simp]
theorem isMember_expel (groups : Groups) (connection member : Connection) (group : Channel) :
    (groups.expel connection).isMember group member = true ↔
      member ≠ connection ∧ groups.isMember group member = true :=
  PairSet.relates_eraseRight _ _ _ _

/-- The members of a channel, in name order. -/
def members (groups : Groups) (channel : Channel) : List Connection :=
  groups.membership.rights channel

/-- The groups a connection is in, in name order. -/
def groupsOf (groups : Groups) (connection : Connection) : List Channel :=
  groups.membership.lefts connection

@[simp]
theorem mem_members (groups : Groups) (channel : Channel) (connection : Connection) :
    connection ∈ groups.members channel ↔ groups.isMember channel connection = true :=
  PairSet.mem_rights _ _ _

@[simp]
theorem mem_groupsOf (groups : Groups) (channel : Channel) (connection : Connection) :
    channel ∈ groups.groupsOf connection ↔ groups.isMember channel connection = true :=
  PairSet.mem_lefts _ _ _

/-- How many channels have a member. -/
def count (groups : Groups) : Nat := groups.membership.count

end Groups
end ChannelMembership
