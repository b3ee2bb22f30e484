import ChannelMembership.Identity

/-!
# Slots

For each user at most one piece of membership work runs at a time.  Whoever enters an idle slot gets
a ticket and runs; whoever finds the slot running parks its work there, in place of any work parked
earlier.  The owner of the ticket takes parked work out and runs again, or gives the slot back.
A ticket that has been given back is spent and has no effect any more.
-/

namespace ChannelMembership

/-- Membership work for one user. -/
inductive Work where
  /-- Bring every connection in line with what this principal is authorised for. -/
  | reconcile (principal : Principal)
  /-- Leave every known channel on every connection. -/
  | revoke
  deriving DecidableEq

/-- The state of one user's slot. -/
inductive Slot where
  /-- Nothing runs. -/
  | idle
  /-- Work runs, and newer work may be parked behind it. -/
  | running (parked : Option Work)
  deriving DecidableEq

/-- The slots of all users. -/
structure Slots where
  /-- The slot of each user. -/
  slot : UserKey → Slot

/-- The right to run work in a user's slot. -/
structure Ticket where
  /-- The user whose slot is owned. -/
  user : UserKey
  /-- Whether the slot is still owned. -/
  armed : Bool
  deriving DecidableEq

namespace Slots

/-- All slots are idle. -/
def idle : Slots := ⟨fun _ => .idle⟩

/-- Put the slot of one user into a state. -/
def set (slots : Slots) (user : UserKey) (state : Slot) : Slots :=
  ⟨fun other => if other = user then state else slots.slot other⟩

@[simp]
theorem slot_set_self (slots : Slots) (user : UserKey) (state : Slot) :
    (slots.set user state).slot user = state := by
  simp [set]

theorem slot_set_of_ne (slots : Slots) {user other : UserKey} (state : Slot) (h : other ≠ user) :
    (slots.set user state).slot other = slots.slot other := by
  simp [set, h]

/-- Enter a slot with some work: a ticket if the slot was idle, otherwise the work is parked. -/
def enter (slots : Slots) (user : UserKey) (work : Work) : Slots × Option Ticket :=
  match slots.slot user with
  | .idle => (slots.set user (.running none), some ⟨user, true⟩)
  | .running _ => (slots.set user (.running (some work)), none)

/-- Take the parked work to run it, or give the slot back if nothing is parked. -/
def next (slots : Slots) (ticket : Ticket) : Slots × Ticket × Option Work :=
  if ticket.armed then
    match slots.slot ticket.user with
    | .running (some work) => (slots.set ticket.user (.running none), ticket, some work)
    | .running none => (slots.set ticket.user .idle, { ticket with armed := false }, none)
    | .idle => (slots, { ticket with armed := false }, none)
  else (slots, ticket, none)

/-- Give the slot back without running again; the parked work is handed out. -/
def abandon (slots : Slots) (ticket : Ticket) : Slots × Ticket × Option Work :=
  if ticket.armed then
    let parked :=
      match slots.slot ticket.user with
      | .running parked => parked
      | .idle => none
    (slots.set ticket.user .idle, { ticket with armed := false }, parked)
  else (slots, ticket, none)

/-- Drop a ticket: its slot is given back, and parked work is lost. -/
def drop (slots : Slots) (ticket : Ticket) : Slots := (slots.abandon ticket).1

variable {slots : Slots} {user other : UserKey} {ticket : Ticket}

theorem slot_enter_of_ne (slots : Slots) (work : Work) (apart : other ≠ user) :
    (slots.enter user work).1.slot other = slots.slot other := by
  unfold enter
  split <;> exact slot_set_of_ne slots _ apart

theorem next_user : (slots.next ticket).2.1.user = ticket.user := by
  unfold next
  split
  · split <;> rfl
  · rfl

theorem slot_next_of_ne (apart : other ≠ ticket.user) :
    (slots.next ticket).1.slot other = slots.slot other := by
  unfold next
  split
  · split
    · exact slot_set_of_ne slots _ apart
    · exact slot_set_of_ne slots _ apart
    · rfl
  · rfl

theorem slot_abandon_of_ne (apart : other ≠ ticket.user) :
    (slots.abandon ticket).1.slot other = slots.slot other := by
  unfold abandon
  split
  · exact slot_set_of_ne slots _ apart
  · rfl

end Slots
end ChannelMembership
