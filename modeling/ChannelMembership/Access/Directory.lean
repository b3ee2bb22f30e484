import ChannelMembership.Access.Table

/-!
# The directory of guards

Guards are listed in the order in which they were registered.  A channel is known when some guard
declares it; the guards asked about it are all those that declare it, in registration order, one
entry per registration.
-/

namespace ChannelMembership

/-- Registered guards, first registration first. -/
structure Directory where
  /-- The registrations in order; one guard may be registered several times. -/
  guards : List Guard

namespace Directory

/-- The directory without guards. -/
def empty : Directory := ⟨[]⟩

/-- Register a guard after all earlier ones. -/
def register (directory : Directory) (guard : Guard) : Directory :=
  ⟨directory.guards ++ [guard]⟩

/-- Register several guards in order. -/
def registerAll (directory : Directory) (guards : List Guard) : Directory :=
  ⟨directory.guards ++ guards⟩

/-- The known channels with their guards. -/
def table (directory : Directory) : Table := Table.build directory.guards

/-- All known channels in name order. -/
def channels (directory : Directory) : List Channel := directory.table.channels

/-- The guards that govern a channel, in registration order. -/
def guardsFor (directory : Directory) (channel : Channel) : List Guard :=
  directory.table.guardsFor channel

/-- Whether some guard governs the channel. -/
def governs (directory : Directory) (channel : Channel) : Bool :=
  directory.table.lists channel

@[simp]
theorem mem_channels (directory : Directory) (channel : Channel) :
    channel ∈ directory.channels ↔ directory.governs channel = true :=
  Table.mem_channels _ _

theorem governs_iff (directory : Directory) (channel : Channel) :
    directory.governs channel = true ↔ ∃ guard ∈ directory.guards, channel ∈ guard.channels := by
  simp [governs, table, Table.lists_build, Guard.declares]

theorem governs_eq_false_iff (directory : Directory) (channel : Channel) :
    directory.governs channel = false ↔ ∀ guard ∈ directory.guards, channel ∉ guard.channels := by
  simp [governs, table, Table.lists_build, Guard.declares]

theorem nodup_channels (directory : Directory) : directory.channels.Nodup :=
  directory.table.ascending.nodup

/-- The number of known channels. -/
def size (directory : Directory) : Nat := directory.channels.length

/-- Whether no channel is known. -/
def isEmpty (directory : Directory) : Bool := directory.channels.isEmpty

end Directory
end ChannelMembership
