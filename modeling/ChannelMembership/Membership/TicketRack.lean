import ChannelMembership.Membership.Slot

/-!
# Tickets kept under names

Several holders of tickets share one set of slots.  Each ticket is kept under a name; keeping
another one under the same name drops the former, after the new one has been obtained.
-/

namespace ChannelMembership

/-- Slots, and the tickets that are kept. -/
structure TicketRack where
  /-- The slots of all users. -/
  slots : Slots
  /-- The tickets under their names. -/
  kept : List (String × Ticket)

namespace TicketRack

/-- All slots are idle, and no ticket is kept. -/
def empty : TicketRack := ⟨Slots.idle, []⟩

/-- The ticket kept under a name. -/
def ticket? (rack : TicketRack) (name : String) : Option Ticket := rack.kept.lookup name

/-- Keep a ticket under a name and drop the one that was kept there. -/
def keep (rack : TicketRack) (name : String) (ticket : Ticket) : TicketRack where
  slots :=
    match rack.ticket? name with
    | some former => rack.slots.drop former
    | none => rack.slots
  kept := (name, ticket) :: rack.kept.filter fun entry => entry.1 ≠ name

/-- Enter a user's slot; tells whether the slot was free, so that there is a ticket to keep. -/
def enter (rack : TicketRack) (name : String) (user : UserKey) (work : Work) :
    TicketRack × Bool :=
  match rack.slots.enter user work with
  | (slots, none) => ({ rack with slots := slots }, false)
  | (slots, some ticket) => ({ rack with slots := slots }.keep name ticket, true)

/-- Replace a ticket that is kept, together with the slots. -/
def put (rack : TicketRack) (name : String) (slots : Slots) (ticket : Ticket) : TicketRack where
  slots := slots
  kept := rack.kept.map fun entry => if entry.1 = name then (name, ticket) else entry

/-- Take parked work with a ticket or give the slot back; absent if there is no such ticket. -/
def next (rack : TicketRack) (name : String) : TicketRack × Option (Option Work) :=
  match rack.ticket? name with
  | none => (rack, none)
  | some ticket =>
    let (slots, ticket, work) := rack.slots.next ticket
    (rack.put name slots ticket, some work)

/-- Give a slot back with a ticket; absent if there is no such ticket. -/
def abandon (rack : TicketRack) (name : String) : TicketRack × Option (Option Work) :=
  match rack.ticket? name with
  | none => (rack, none)
  | some ticket =>
    let (slots, ticket, work) := rack.slots.abandon ticket
    (rack.put name slots ticket, some work)

/-- Drop the ticket kept under a name; tells whether there was one. -/
def drop (rack : TicketRack) (name : String) : TicketRack × Bool :=
  match rack.ticket? name with
  | none => (rack, false)
  | some ticket =>
    (⟨rack.slots.drop ticket, rack.kept.filter fun entry => entry.1 ≠ name⟩, true)

end TicketRack
end ChannelMembership
