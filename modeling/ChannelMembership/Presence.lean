import ChannelMembership.Identity
import ChannelMembership.PairSet

/-!
# Presence

Which connection is live under which user.  A user is online exactly as long as some connection is
registered under them.
-/

namespace ChannelMembership

/-- The live connections of all users. -/
structure Presence where
  /-- The registered pairs of a user and a connection. -/
  registered : PairSet UserKey Connection

namespace Presence

/-- Nobody is online. -/
def empty : Presence := ⟨PairSet.empty⟩

/-- Whether this connection is registered under this user. -/
def contains (presence : Presence) (user : UserKey) (connection : Connection) : Bool :=
  presence.registered.relates user connection

/-- Register a connection under a user; tells whether it was not registered yet. -/
def register (presence : Presence) (user : UserKey) (connection : Connection) : Presence × Bool :=
  let (registered, fresh) := presence.registered.insert user connection
  (⟨registered⟩, fresh)

/-- Remove a connection from a user; tells whether it was registered. -/
def deregister (presence : Presence) (user : UserKey) (connection : Connection) :
    Presence × Bool :=
  let (registered, found) := presence.registered.erase user connection
  (⟨registered⟩, found)

/-- What is registered once a connection has been. -/
def add (presence : Presence) (user : UserKey) (connection : Connection) : Presence :=
  (presence.register user connection).1

/-- What is registered once a connection has been removed. -/
def remove (presence : Presence) (user : UserKey) (connection : Connection) : Presence :=
  (presence.deregister user connection).1

@[simp]
theorem contains_add (presence : Presence) (user other : UserKey)
    (connection another : Connection) :
    (presence.add user connection).contains other another = true ↔
      (other = user ∧ another = connection) ∨ presence.contains other another = true :=
  PairSet.relates_insert _ _ _ _ _

@[simp]
theorem contains_remove (presence : Presence) (user other : UserKey)
    (connection another : Connection) :
    (presence.remove user connection).contains other another = true ↔
      ¬(other = user ∧ another = connection) ∧ presence.contains other another = true :=
  PairSet.relates_erase _ _ _ _ _

/-- Whether the user has a live connection. -/
def isOnline (presence : Presence) (user : UserKey) : Bool :=
  presence.registered.hasRow user

/-- The live connections of a user, in name order. -/
def connections (presence : Presence) (user : UserKey) : List Connection :=
  presence.registered.rights user

/-- The users who are online, in key order. -/
def users (presence : Presence) : List UserKey := presence.registered.domain

theorem isOnline_iff (presence : Presence) (user : UserKey) :
    presence.isOnline user = true ↔ ∃ connection, presence.contains user connection = true :=
  PairSet.hasRow_iff _ _

@[simp]
theorem mem_connections (presence : Presence) (user : UserKey) (connection : Connection) :
    connection ∈ presence.connections user ↔ presence.contains user connection = true :=
  PairSet.mem_rights _ _ _

@[simp]
theorem mem_users (presence : Presence) (user : UserKey) :
    user ∈ presence.users ↔ presence.isOnline user = true :=
  PairSet.mem_domain _ _

/-- How many users are online. -/
def userCount (presence : Presence) : Nat := presence.registered.count

/-- How many connections are live. -/
def connectionCount (presence : Presence) : Nat := presence.registered.size

end Presence
end ChannelMembership
