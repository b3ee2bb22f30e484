import Mathlib.Data.List.Nodup
import ChannelMembership.Membership.TicketRack
import ChannelMembership.Proofs.Lookup

/-!
# Tickets and slots

A ticket outlives its right to a slot: it can still be used after it was given back, while somebody
else already runs in the same slot.  What happens is nevertheless described without any marks on
tickets, by saying of each slot who holds it and what was parked there last.  Only the holder's
ticket takes the parked work or frees the slot.
-/

namespace ChannelMembership

/-- A use of the tickets that are kept under names. -/
inductive TicketUse where
  /-- Enter a user's slot with some work; a ticket obtained is kept under the name. -/
  | enter (name : String) (user : UserKey) (work : Work)
  /-- Take parked work with a ticket or give the slot back. -/
  | next (name : String)
  /-- Give the slot back with a ticket. -/
  | abandon (name : String)
  /-- Drop a ticket. -/
  | drop (name : String)

namespace TicketUse

/-- What a use of a ticket answers. -/
inductive Answer where
  /-- Whether the slot was free, so that a ticket was obtained. -/
  | entered (free : Bool)
  /-- The work handed out, if there is any; absent without a ticket. -/
  | handed (work : Option (Option Work))
  /-- Whether there was a ticket to drop. -/
  | dropped (found : Bool)

/-- Carry out a use of a ticket. -/
def perform (rack : TicketRack) : TicketUse → TicketRack × Answer
  | enter name user work => ((rack.enter name user work).1, .entered (rack.enter name user work).2)
  | next name => ((rack.next name).1, .handed (rack.next name).2)
  | abandon name => ((rack.abandon name).1, .handed (rack.abandon name).2)
  | drop name => ((rack.drop name).1, .dropped (rack.drop name).2)

/-- The user whose slot may be changed by a use of a ticket. -/
def Concerns (rack : TicketRack) (user : UserKey) : TicketUse → Prop
  | enter name entered _ => user = entered ∨ rack.ticket? name = some ⟨user, true⟩
  | next name | abandon name | drop name => rack.ticket? name = some ⟨user, true⟩

end TicketUse

/-- How a slot is taken. -/
inductive Tenure where
  /-- Nobody holds it. -/
  | vacant
  /-- The ticket of this name holds it, and this work was parked last, if any. -/
  | held (holder : String) (parked : Option Work)

namespace Tenure

/-- The state of a slot taken in this way. -/
def slot : Tenure → Slot
  | vacant => .idle
  | held _ parked => .running parked

/-- What is parked in the slot, if the ticket of this name holds it. -/
def parked? (name : String) : Tenure → Option (Option Work)
  | vacant => none
  | held holder parked => if holder = name then some parked else none

/-- The slot is freed if the ticket of this name holds it. -/
def without (name : String) : Tenure → Tenure
  | vacant => vacant
  | held holder parked => if holder = name then vacant else held holder parked

theorem parked?_eq_some {name : String} {tenure : Tenure} {parked : Option Work} :
    tenure.parked? name = some parked ↔ tenure = held name parked := by
  cases tenure with
  | vacant => simp [parked?]
  | held holder other =>
      by_cases same : holder = name <;> simp [parked?, same]

@[simp]
theorem parked?_without (name other : String) (tenure : Tenure) :
    (tenure.without name).parked? other = if other = name then none else tenure.parked? other := by
  cases tenure with
  | vacant => simp [without, parked?]
  | held holder parked =>
      by_cases mine : holder = name
      · by_cases same : other = name
        · simp [without, parked?, mine, same]
        · simp [without, parked?, mine, same, Ne.symm same]
      · by_cases same : other = name
        · simp [without, parked?, mine, same]
        · simp [without, parked?, mine, same]

theorem slot_without (name : String) (tenure : Tenure) :
    (tenure.without name).slot =
      if (tenure.parked? name).isSome then .idle else tenure.slot := by
  cases tenure with
  | vacant => rfl
  | held holder parked => by_cases mine : holder = name <;> simp [without, parked?, mine, slot]

end Tenure

/-- Who holds the slots, and for whom the tickets were obtained. -/
structure Tenancy where
  /-- How the slot of each user is taken. -/
  tenure : UserKey → Tenure
  /-- The user for whom the ticket of a name was obtained. -/
  tenant : String → Option UserKey

namespace Tenancy

/-- No slot is taken, and there are no tickets. -/
def vacant : Tenancy := ⟨fun _ => .vacant, fun _ => none⟩

/-- Let a slot be taken in a certain way. -/
def take (tenancy : Tenancy) (user : UserKey) (tenure : Tenure) : Tenancy :=
  { tenancy with tenure := fun other => if other = user then tenure else tenancy.tenure other }

/-- Free what the ticket of a name holds. -/
def release (tenancy : Tenancy) (name : String) : Tenancy :=
  { tenancy with tenure := fun user => (tenancy.tenure user).without name }

/-- Let the ticket of a name belong to a user, or be gone. -/
def hand (tenancy : Tenancy) (name : String) (user : Option UserKey) : Tenancy :=
  { tenancy with tenant := fun other => if other = name then user else tenancy.tenant other }

@[simp]
theorem tenure_take (tenancy : Tenancy) (user other : UserKey) (tenure : Tenure) :
    (tenancy.take user tenure).tenure other =
      if other = user then tenure else tenancy.tenure other := rfl

@[simp]
theorem tenant_take (tenancy : Tenancy) (user : UserKey) (tenure : Tenure) :
    (tenancy.take user tenure).tenant = tenancy.tenant := rfl

@[simp]
theorem tenure_release (tenancy : Tenancy) (name : String) (user : UserKey) :
    (tenancy.release name).tenure user = (tenancy.tenure user).without name := rfl

@[simp]
theorem tenant_release (tenancy : Tenancy) (name : String) :
    (tenancy.release name).tenant = tenancy.tenant := rfl

@[simp]
theorem tenure_hand (tenancy : Tenancy) (name : String) (user : Option UserKey) :
    (tenancy.hand name user).tenure = tenancy.tenure := rfl

@[simp]
theorem tenant_hand (tenancy : Tenancy) (name other : String) (user : Option UserKey) :
    (tenancy.hand name user).tenant other =
      if other = name then user else tenancy.tenant other := rfl

/-- What a use of a ticket does to the slots, and what it answers. -/
def step (tenancy : Tenancy) : TicketUse → Tenancy × TicketUse.Answer
  | .enter name user work =>
    match tenancy.tenure user with
    | .held holder _ => (tenancy.take user (.held holder (some work)), .entered false)
    | .vacant =>
      (((tenancy.release name).take user (.held name none)).hand name (some user), .entered true)
  | .next name =>
    match tenancy.tenant name with
    | none => (tenancy, .handed none)
    | some user =>
      match (tenancy.tenure user).parked? name with
      | some (some work) => (tenancy.take user (.held name none), .handed (some (some work)))
      | some none => (tenancy.release name, .handed (some none))
      | none => (tenancy, .handed (some none))
  | .abandon name =>
    match tenancy.tenant name with
    | none => (tenancy, .handed none)
    | some user =>
      (tenancy.release name, .handed (some ((tenancy.tenure user).parked? name).join))
  | .drop name =>
    match tenancy.tenant name with
    | none => (tenancy, .dropped false)
    | some _ => ((tenancy.release name).hand name none, .dropped true)

end Tenancy

namespace Slots

theorem slot_drop (slots : Slots) (user other : UserKey) (armed : Bool) :
    (slots.drop ⟨user, armed⟩).slot other =
      if other = user ∧ armed = true then .idle else slots.slot other := by
  cases armed with
  | false => simp [drop, abandon]
  | true => simp [drop, abandon, set]

/-- Only an armed ticket of a user changes their slot. -/
theorem slot_of_not_armed {slots : Slots} {user : UserKey} {ticket : Ticket}
    (foreign : ticket ≠ ⟨user, true⟩) :
    (slots.next ticket).1.slot user = slots.slot user ∧
      (slots.abandon ticket).1.slot user = slots.slot user := by
  by_cases mine : user = ticket.user
  · obtain ⟨owner, armed⟩ := ticket
    cases armed with
    | false => exact ⟨rfl, rfl⟩
    | true => exact absurd (congrArg (Ticket.mk · true) mine.symm) foreign
  · exact ⟨slot_next_of_ne mine, slot_abandon_of_ne mine⟩

end Slots

namespace TicketRack

open Slots

/-- The slots and tickets are as a tenancy says: a ticket is armed exactly if it holds the slot of
its user. -/
structure Shows (rack : TicketRack) (tenancy : Tenancy) : Prop where
  /-- Every slot is taken as the tenancy says. -/
  slot_eq : ∀ user, rack.slots.slot user = (tenancy.tenure user).slot
  /-- The tickets are those of the tenancy, and they are armed if they hold the slot. -/
  ticket_eq : ∀ name, rack.ticket? name = (tenancy.tenant name).map fun user =>
    ⟨user, ((tenancy.tenure user).parked? name).isSome⟩
  /-- A slot is held by a ticket of its user. -/
  tenant_eq : ∀ user holder parked,
    tenancy.tenure user = .held holder parked → tenancy.tenant holder = some user
  /-- No two tickets are kept under one name. -/
  distinct : (rack.kept.map Prod.fst).Nodup

theorem shows_empty : empty.Shows .vacant where
  slot_eq := fun _ => rfl
  ticket_eq := fun _ => rfl
  tenant_eq := nofun
  distinct := List.nodup_nil

@[simp]
theorem ticket?_slots (rack : TicketRack) (slots : Slots) (name : String) :
    ({ rack with slots := slots } : TicketRack).ticket? name = rack.ticket? name := rfl

variable {rack : TicketRack} {tenancy : Tenancy}

/-- What is parked behind a ticket that holds the slot of its user. -/
theorem Shows.slot_of_parked (shows : rack.Shows tenancy) {user : UserKey} {name : String}
    {parked : Option Work} (holds : (tenancy.tenure user).parked? name = some parked) :
    rack.slots.slot user = .running parked := by
  rw [shows.slot_eq, Tenure.parked?_eq_some.1 holds]
  rfl

/-- A name holds no slot but that of the user to whom its ticket belongs. -/
theorem Shows.tenant_of_parked (shows : rack.Shows tenancy) {user : UserKey} {name : String}
    (holds : ((tenancy.tenure user).parked? name).isSome = true) :
    tenancy.tenant name = some user := by
  obtain ⟨parked, found⟩ := Option.isSome_iff_exists.1 holds
  exact shows.tenant_eq user name parked (Tenure.parked?_eq_some.1 found)

theorem Shows.tenant_of_release (shows : rack.Shows tenancy) {name : String} {user : UserKey}
    {holder : String} {parked : Option Work}
    (taken : (tenancy.release name).tenure user = .held holder parked) :
    holder ≠ name ∧ tenancy.tenant holder = some user := by
  have held : ((tenancy.tenure user).without name).parked? holder = some parked :=
    Tenure.parked?_eq_some.2 taken
  rw [Tenure.parked?_without] at held
  split at held
  · cases held
  · rename_i apart
    exact ⟨apart, shows.tenant_eq user holder parked (Tenure.parked?_eq_some.1 held)⟩

/-- What the ticket of a name frees, if its user is known. -/
theorem Shows.slot_release (shows : rack.Shows tenancy) {name : String} {user : UserKey}
    (tenant : tenancy.tenant name = some user) (other : UserKey) :
    ((tenancy.release name).tenure other).slot =
      if other = user ∧ ((tenancy.tenure user).parked? name).isSome = true then .idle
      else rack.slots.slot other := by
  rw [shows.slot_eq, Tenancy.tenure_release, Tenure.slot_without]
  by_cases same : other = user
  · simp [same]
  · have apart : ¬((tenancy.tenure other).parked? name).isSome = true := by
      intro holds
      exact same (Option.some.inj ((shows.tenant_of_parked holds).symm.trans tenant))
    rw [if_neg apart, if_neg fun both => same both.1]

theorem Shows.slot_release_of_none (shows : rack.Shows tenancy) {name : String}
    (tenant : tenancy.tenant name = none) (other : UserKey) :
    ((tenancy.release name).tenure other).slot = rack.slots.slot other := by
  rw [shows.slot_eq, Tenancy.tenure_release, Tenure.slot_without, if_neg]
  intro holds
  cases tenant.symm.trans (shows.tenant_of_parked holds)

/-- Giving a slot back with a ticket frees what the ticket holds and hands out what is parked
there. -/
theorem Shows.abandon_eq (shows : rack.Shows tenancy) {name : String} {user : UserKey}
    (tenant : tenancy.tenant name = some user) :
    (∀ other, (rack.slots.abandon
        ⟨user, ((tenancy.tenure user).parked? name).isSome⟩).1.slot other =
      ((tenancy.release name).tenure other).slot) ∧
    (rack.slots.abandon ⟨user, ((tenancy.tenure user).parked? name).isSome⟩).2 =
      (⟨user, false⟩, ((tenancy.tenure user).parked? name).join) := by
  constructor
  · intro other
    rw [shows.slot_release tenant]
    exact slot_drop _ _ _ _
  · cases holds : (tenancy.tenure user).parked? name with
    | none => rfl
    | some parked =>
        have running := shows.slot_of_parked holds
        simp [Slots.abandon, running]

theorem ticket?_put (rack : TicketRack) (name other : String) (slots : Slots) (ticket : Ticket) :
    (rack.put name slots ticket).ticket? other =
      if other = name then (rack.ticket? name).map fun _ => ticket else rack.ticket? other :=
  lookup_map_replace rack.kept name other ticket

/-- The ticket of a name is replaced by the same ticket, armed or not, and only what that ticket
holds may be different. -/
theorem Shows.put (shows : rack.Shows tenancy) {name : String} {user : UserKey} {slots : Slots}
    {later : Tenancy} {armed : Bool} (tenant : tenancy.tenant name = some user)
    (tenants : later.tenant = tenancy.tenant)
    (slot_eq : ∀ user, slots.slot user = (later.tenure user).slot)
    (armed_eq : ((later.tenure user).parked? name).isSome = armed)
    (others : ∀ other user, other ≠ name →
      (later.tenure user).parked? other = (tenancy.tenure user).parked? other)
    (mine : ∀ user, ((later.tenure user).parked? name).isSome = true →
      tenancy.tenant name = some user) :
    (rack.put name slots ⟨user, armed⟩).Shows later where
  slot_eq := slot_eq
  ticket_eq := by
    intro other
    rw [ticket?_put, shows.ticket_eq, tenants]
    by_cases same : other = name
    · simp [same, tenant, armed_eq]
    · simp only [same, if_false, others other _ same, shows.ticket_eq]
  tenant_eq := by
    intro user holder parked taken
    have held := Tenure.parked?_eq_some.2 taken
    rw [tenants]
    by_cases same : holder = name
    · subst same
      exact mine user (by rw [held]; rfl)
    · rw [others holder user same] at held
      exact shows.tenant_eq user holder parked (Tenure.parked?_eq_some.1 held)
  distinct := by
    have distinct := shows.distinct
    rwa [← map_fst_replace rack.kept name ⟨user, armed⟩] at distinct

theorem Shows.put_release (shows : rack.Shows tenancy) {name : String} {user : UserKey}
    {slots : Slots} (tenant : tenancy.tenant name = some user)
    (slot_eq : ∀ user, slots.slot user = ((tenancy.release name).tenure user).slot) :
    (rack.put name slots ⟨user, false⟩).Shows (tenancy.release name) :=
  shows.put tenant rfl slot_eq (by simp)
    (fun other user apart => by simp [apart]) (by simp)

theorem Shows.next (shows : rack.Shows tenancy) (name : String) :
    (rack.next name).1.Shows (tenancy.step (.next name)).1 ∧
      .handed (rack.next name).2 = (tenancy.step (.next name)).2 := by
  have ticket := shows.ticket_eq name
  cases tenant : tenancy.tenant name with
  | none =>
      rw [tenant] at ticket
      simp only [TicketRack.next, ticket, Option.map_none, Tenancy.step, tenant]
      exact ⟨shows, trivial⟩
  | some user =>
      rw [tenant, Option.map_some] at ticket
      have released := shows.slot_release tenant
      simp only [TicketRack.next, ticket, Tenancy.step, tenant]
      cases holds : (tenancy.tenure user).parked? name with
      | none =>
          simp only [Option.isSome_none, Slots.next, Bool.false_eq_true, if_false]
          refine ⟨shows.put tenant rfl shows.slot_eq (by rw [holds]; rfl) (fun _ _ _ => rfl)
            fun user holds => shows.tenant_of_parked holds, trivial⟩
      | some parked =>
          have running := shows.slot_of_parked holds
          have taken := Tenure.parked?_eq_some.1 holds
          cases parked with
          | none =>
              simp only [holds, Option.isSome_some, and_true] at released
              simp only [Option.isSome_some, Slots.next, if_true, running]
              exact ⟨shows.put_release tenant fun other => (released other).symm, trivial⟩
          | some work =>
              simp only [Option.isSome_some, Slots.next, if_true, running]
              refine ⟨shows.put tenant rfl (fun other => ?_) ?_ (fun other someone apart => ?_)
                (fun someone held => ?_), trivial⟩
              · by_cases same : other = user
                · simp [Tenancy.take, Slots.set, same, Tenure.slot]
                · simp [Tenancy.take, Slots.set, same, shows.slot_eq]
              · simp [Tenancy.take, Tenure.parked?]
              · by_cases same : someone = user
                · simp [Tenancy.take, same, taken, Tenure.parked?, Ne.symm apart]
                · simp [Tenancy.take, same]
              · by_cases same : someone = user
                · rw [same, tenant]
                · simp only [Tenancy.take, same, if_false] at held
                  exact shows.tenant_of_parked held

theorem Shows.abandon (shows : rack.Shows tenancy) (name : String) :
    (rack.abandon name).1.Shows (tenancy.step (.abandon name)).1 ∧
      .handed (rack.abandon name).2 = (tenancy.step (.abandon name)).2 := by
  have ticket := shows.ticket_eq name
  cases tenant : tenancy.tenant name with
  | none =>
      rw [tenant] at ticket
      simp only [TicketRack.abandon, ticket, Option.map_none, Tenancy.step, tenant]
      exact ⟨shows, trivial⟩
  | some user =>
      rw [tenant, Option.map_some] at ticket
      obtain ⟨freed, spent⟩ := shows.abandon_eq tenant
      simp only [TicketRack.abandon, ticket, Tenancy.step, tenant, spent]
      exact ⟨shows.put_release tenant freed, trivial⟩

theorem Shows.drop (shows : rack.Shows tenancy) (name : String) :
    (rack.drop name).1.Shows (tenancy.step (.drop name)).1 ∧
      .dropped (rack.drop name).2 = (tenancy.step (.drop name)).2 := by
  have ticket := shows.ticket_eq name
  cases tenant : tenancy.tenant name with
  | none =>
      rw [tenant] at ticket
      simp only [TicketRack.drop, ticket, Option.map_none, Tenancy.step, tenant]
      exact ⟨shows, trivial⟩
  | some user =>
      rw [tenant, Option.map_some] at ticket
      simp only [TicketRack.drop, ticket, Tenancy.step, tenant]
      refine ⟨⟨(shows.abandon_eq tenant).1, fun other => ?_,
        fun user holder parked taken => ?_, ?_⟩, trivial⟩
      · rw [ticket?, lookup_filter_ne]
        by_cases same : other = name
        · simp [same]
        · have former := shows.ticket_eq other
          rw [ticket?] at former
          simpa [same] using former
      · obtain ⟨apart, belongs⟩ := shows.tenant_of_release taken
        simpa [apart] using belongs
      · exact shows.distinct.sublist (List.filter_sublist.map _)

theorem ticket?_keep (rack : TicketRack) (name other : String) (ticket : Ticket) :
    (rack.keep name ticket).ticket? other =
      if other = name then some ticket else rack.ticket? other := by
  rw [ticket?, keep, lookup_cons_eq, lookup_filter_ne]
  split
  · rfl
  · rfl

theorem distinct_keep {rack : TicketRack} (distinct : (rack.kept.map Prod.fst).Nodup)
    (name : String) (ticket : Ticket) : ((rack.keep name ticket).kept.map Prod.fst).Nodup := by
  refine List.nodup_cons.2 ⟨?_, distinct.sublist (List.filter_sublist.map _)⟩
  simp

/-- A slot that was free is taken, and what the replaced ticket held is freed, also when it is
dropped only afterwards. -/
theorem Shows.slot_keep (shows : rack.Shows tenancy) {user : UserKey}
    (free : tenancy.tenure user = .vacant) (name : String) (other : UserKey) :
    (({ rack with slots := rack.slots.set user (.running none) } : TicketRack).keep name
        ⟨user, true⟩).slots.slot other =
      (((tenancy.release name).take user (.held name none)).tenure other).slot := by
  have former := shows.ticket_eq name
  have taken : other = user →
      (((tenancy.release name).take user (.held name none)).tenure other).slot =
        .running none := by
    intro same
    simp [same, Tenure.slot]
  have left : other ≠ user →
      (((tenancy.release name).take user (.held name none)).tenure other).slot =
        ((tenancy.release name).tenure other).slot := by
    intro apart
    simp [apart]
  cases tenant : tenancy.tenant name with
  | none =>
      rw [tenant] at former
      simp only [keep, ticket?_slots, former, Option.map_none]
      by_cases same : other = user
      · rw [taken same, same, slot_set_self]
      · rw [left same, slot_set_of_ne _ _ same, shows.slot_release_of_none tenant]
  | some owner =>
      rw [tenant, Option.map_some] at former
      simp only [keep, ticket?_slots, former, slot_drop]
      by_cases same : other = user
      · have spent : ¬(other = owner ∧ ((tenancy.tenure owner).parked? name).isSome = true) := by
          rintro ⟨rfl, holds⟩
          rw [same, free] at holds
          cases holds
        rw [if_neg spent, taken same, same, slot_set_self]
      · rw [left same, slot_set_of_ne _ _ same, shows.slot_release tenant]

theorem Shows.enter_of_held (shows : rack.Shows tenancy) {user : UserKey} {holder : String}
    {parked : Option Work} (taken : tenancy.tenure user = .held holder parked) (work : Work) :
    ({ rack with slots := rack.slots.set user (.running (some work)) } : TicketRack).Shows
      (tenancy.take user (.held holder (some work))) where
  slot_eq := by
    intro other
    by_cases same : other = user
    · simp [Slots.set, same, Tenure.slot]
    · simp [Slots.set, same, shows.slot_eq]
  ticket_eq := by
    intro name
    have former := shows.ticket_eq name
    have armed : ∀ someone, (((tenancy.take user (.held holder (some work))).tenure
        someone).parked? name).isSome = ((tenancy.tenure someone).parked? name).isSome := by
      intro someone
      by_cases same : someone = user
      · by_cases mine : holder = name <;> simp [same, taken, Tenure.parked?, mine]
      · simp [same]
    simpa only [armed, Tenancy.tenant_take, ticket?_slots] using former
  tenant_eq := by
    intro someone holder' parked' taken'
    by_cases same : someone = user
    · rw [Tenancy.tenure_take, if_pos same] at taken'
      cases taken'
      rw [same]
      exact shows.tenant_eq user holder parked taken
    · rw [Tenancy.tenure_take, if_neg same] at taken'
      exact shows.tenant_eq someone holder' parked' taken'
  distinct := shows.distinct

theorem Shows.enter_of_vacant (shows : rack.Shows tenancy) {user : UserKey}
    (free : tenancy.tenure user = .vacant) (name : String) :
    (({ rack with slots := rack.slots.set user (.running none) } : TicketRack).keep name
        ⟨user, true⟩).Shows
      (((tenancy.release name).take user (.held name none)).hand name (some user)) where
  slot_eq := shows.slot_keep free name
  ticket_eq := by
    intro other
    rw [ticket?_keep]
    by_cases same : other = name
    · simp [same, Tenure.parked?]
    · have armed : ∀ someone, (((((tenancy.release name).take user (.held name none)).hand name
          (some user)).tenure someone).parked? other).isSome =
            ((tenancy.tenure someone).parked? other).isSome := by
        intro someone
        by_cases here : someone = user
        · simp [here, free, Tenure.parked?, Ne.symm same]
        · simp [here, same]
      simpa only [armed, Tenancy.tenant_hand, Tenancy.tenant_take, Tenancy.tenant_release,
        ticket?_slots, same, if_false] using shows.ticket_eq other
  tenant_eq := by
    intro someone holder parked taken
    rw [Tenancy.tenure_hand, Tenancy.tenure_take] at taken
    split at taken
    · rename_i same
      cases taken
      simp [same]
    · obtain ⟨apart, belongs⟩ := shows.tenant_of_release taken
      simpa [apart] using belongs
  distinct := distinct_keep shows.distinct name _

theorem Shows.enter (shows : rack.Shows tenancy) (name : String) (user : UserKey) (work : Work) :
    (rack.enter name user work).1.Shows (tenancy.step (.enter name user work)).1 ∧
      .entered (rack.enter name user work).2 = (tenancy.step (.enter name user work)).2 := by
  have slot := shows.slot_eq user
  cases taken : tenancy.tenure user with
  | held holder parked =>
      rw [taken, Tenure.slot] at slot
      simp only [TicketRack.enter, Slots.enter, slot, Tenancy.step, taken]
      exact ⟨shows.enter_of_held taken work, trivial⟩
  | vacant =>
      rw [taken, Tenure.slot] at slot
      simp only [TicketRack.enter, Slots.enter, slot, Tenancy.step, taken]
      exact ⟨shows.enter_of_vacant taken name, trivial⟩

/-- Whatever is done with the tickets, the rack does and answers what the tenancy says. -/
theorem Shows.perform (shows : rack.Shows tenancy) (use : TicketUse) :
    (use.perform rack).1.Shows (tenancy.step use).1 ∧
      (use.perform rack).2 = (tenancy.step use).2 := by
  cases use with
  | enter name user work => exact shows.enter name user work
  | next name => exact shows.next name
  | abandon name => exact shows.abandon name
  | drop name => exact shows.drop name

/-- How many armed tickets of a user are kept. -/
def armed (rack : TicketRack) (user : UserKey) : Nat :=
  rack.kept.countP fun entry => entry.2 = ⟨user, true⟩

theorem Shows.ticket?_armed (shows : rack.Shows tenancy) (name : String) (user : UserKey) :
    rack.ticket? name = some ⟨user, true⟩ ↔
      ∃ parked, tenancy.tenure user = .held name parked := by
  rw [shows.ticket_eq]
  constructor
  · intro found
    obtain ⟨someone, tenant, same⟩ := Option.map_eq_some_iff.1 found
    obtain ⟨rfl, holds⟩ := Ticket.mk.inj same
    obtain ⟨parked, held⟩ := Option.isSome_iff_exists.1 holds
    exact ⟨parked, Tenure.parked?_eq_some.1 held⟩
  · rintro ⟨parked, taken⟩
    simp [shows.tenant_eq user name parked taken, taken, Tenure.parked?]

/-- There is one armed ticket of a user as long as their slot is taken, and otherwise none. -/
theorem Shows.armed_eq (shows : rack.Shows tenancy) (user : UserKey) :
    rack.armed user = if rack.slots.slot user = .idle then 0 else 1 := by
  have mem_iff : ∀ entry ∈ rack.kept, entry.2 = ⟨user, true⟩ ↔
      ∃ parked, tenancy.tenure user = .held entry.1 parked := by
    rintro ⟨name, ticket⟩ member
    rw [← shows.ticket?_armed, ticket?, lookup_of_mem shows.distinct member, Option.some.injEq]
  rw [armed, shows.slot_eq]
  cases taken : tenancy.tenure user with
  | vacant =>
      simp only [taken, reduceCtorEq, exists_const, iff_false] at mem_iff
      simpa [Tenure.slot, List.countP_eq_zero] using mem_iff
  | held holder parked =>
      have kept := mem_of_lookup ((shows.ticket?_armed holder user).2 ⟨parked, taken⟩)
      have same : ∀ entry ∈ rack.kept,
          decide (entry.2 = (⟨user, true⟩ : Ticket)) = true ↔
            (entry == (holder, ⟨user, true⟩)) = true := by
        intro entry member
        rw [decide_eq_true_iff, beq_iff_eq]
        constructor
        · intro here
          obtain ⟨_, found⟩ := (mem_iff entry member).1 here
          cases taken.symm.trans found
          exact Prod.ext rfl here
        · rintro rfl
          rfl
      rw [List.countP_congr same]
      exact List.count_eq_one_of_mem (List.Nodup.of_map _ shows.distinct) kept

/-- A use of a ticket leaves alone the slots of all users whom it does not concern. -/
theorem slot_perform_of_not_concerns {use : TicketUse} {user : UserKey}
    (foreign : ¬use.Concerns rack user) :
    (use.perform rack).1.slots.slot user = rack.slots.slot user := by
  -- whatever is found under the name of the ticket is not an armed ticket of the user
  have found : ∀ {name : String} {ticket : Ticket}, rack.ticket? name = some ticket →
      rack.ticket? name ≠ some ⟨user, true⟩ → ticket ≠ ⟨user, true⟩ := by
    rintro name ticket found absent rfl
    exact absent found
  cases use with
  | enter name entered work =>
      obtain ⟨apart, absent⟩ := not_or.1 foreign
      have entering := slot_enter_of_ne rack.slots work apart
      rw [TicketUse.perform, TicketRack.enter]
      split
      · rename_i slots result
        rwa [result] at entering
      · rename_i slots ticket result
        rw [result] at entering
        simp only [keep, ticket?_slots]
        cases former : rack.ticket? name with
        | none => exact entering
        | some ticket => exact (slot_of_not_armed (found former absent)).2.trans entering
  | next name =>
      rw [TicketUse.perform, TicketRack.next]
      cases kept : rack.ticket? name with
      | none => rfl
      | some ticket => exact (slot_of_not_armed (found kept foreign)).1
  | abandon name =>
      rw [TicketUse.perform, TicketRack.abandon]
      cases kept : rack.ticket? name with
      | none => rfl
      | some ticket => exact (slot_of_not_armed (found kept foreign)).2
  | drop name =>
      rw [TicketUse.perform, TicketRack.drop]
      cases kept : rack.ticket? name with
      | none => rfl
      | some ticket => exact (slot_of_not_armed (found kept foreign)).2

/-- A ticket that has been given back changes no slot and hands out nothing. -/
theorem perform_of_spent {name : String} {user : UserKey}
    (spent : rack.ticket? name = some ⟨user, false⟩) :
    rack.next name = (rack.put name rack.slots ⟨user, false⟩, some none) ∧
      rack.abandon name = (rack.put name rack.slots ⟨user, false⟩, some none) ∧
      (rack.drop name).1.slots = rack.slots := by
  simp [TicketRack.next, TicketRack.abandon, TicketRack.drop, spent, Slots.next, Slots.abandon,
    Slots.drop]

end TicketRack

namespace TicketUse

variable {State : Type}

/-- The state after some uses of tickets. -/
def after (step : State → TicketUse → State × Answer) (state : State) (uses : List TicketUse) :
    State :=
  uses.foldl (fun state use => (step state use).1) state

/-- What some uses of tickets answer, one after the other. -/
def answers (step : State → TicketUse → State × Answer) : State → List TicketUse → List Answer
  | _, [] => []
  | state, use :: rest => (step state use).2 :: answers step (step state use).1 rest

theorem shows_after {rack : TicketRack} {tenancy : Tenancy} (shows : rack.Shows tenancy)
    (uses : List TicketUse) :
    (after perform rack uses).Shows (after Tenancy.step tenancy uses) ∧
      answers perform rack uses = answers Tenancy.step tenancy uses := by
  induction uses generalizing rack tenancy with
  | nil => exact ⟨shows, rfl⟩
  | cons use rest ih =>
      obtain ⟨shows_next, answer⟩ := shows.perform use
      obtain ⟨shows_rest, answers_rest⟩ := ih shows_next
      refine ⟨shows_rest, ?_⟩
      rw [answers, answers, answer, answers_rest]

end TicketUse

/-- Each slot has at most one owner: the armed tickets are those that hold the slot of their user,
and all others are spent. -/
structure TicketRack.Exclusive (rack : TicketRack) : Prop where
  /-- Work runs in a slot exactly if there is one armed ticket of its user. -/
  running_iff : ∀ user, (∃ parked, rack.slots.slot user = .running parked) ↔ rack.armed user = 1
  /-- Otherwise there is none. -/
  idle_iff : ∀ user, rack.slots.slot user = .idle ↔ rack.armed user = 0
  /-- An armed ticket finds work running in its slot. -/
  running_of_armed : ∀ name user, rack.ticket? name = some ⟨user, true⟩ →
    ∃ parked, rack.slots.slot user = .running parked
  /-- A spent ticket changes no slot. -/
  spent : ∀ name user, rack.ticket? name = some ⟨user, false⟩ →
    (rack.next name).1.slots = rack.slots ∧ (rack.abandon name).1.slots = rack.slots ∧
      (rack.drop name).1.slots = rack.slots
  /-- The slot of a user is changed only by entering it, or with an armed ticket of this user. -/
  foreign : ∀ (use : TicketUse) (user : UserKey), ¬use.Concerns rack user →
    (use.perform rack).1.slots.slot user = rack.slots.slot user

theorem TicketRack.Shows.exclusive {rack : TicketRack} {tenancy : Tenancy}
    (shows : rack.Shows tenancy) : rack.Exclusive where
  running_iff := by
    intro user
    rw [shows.armed_eq]
    cases rack.slots.slot user <;> simp
  idle_iff := by
    intro user
    rw [shows.armed_eq]
    cases rack.slots.slot user <;> simp
  running_of_armed := by
    intro name user armed
    obtain ⟨parked, taken⟩ := (shows.ticket?_armed name user).1 armed
    exact ⟨parked, by rw [shows.slot_eq, taken]; rfl⟩
  spent := by
    intro name user spent
    obtain ⟨next, abandon, drop⟩ := perform_of_spent spent
    rw [next, abandon]
    exact ⟨rfl, rfl, drop⟩
  foreign := fun _ _ => slot_perform_of_not_concerns

/-- Whatever is done with tickets, the slots and the answers are those of a tenancy, in which every
slot has at most one holder and only the holder's ticket has any effect on it. -/
theorem tickets_follow_tenancy (uses : List TicketUse) :
    TicketUse.answers TicketUse.perform TicketRack.empty uses =
        TicketUse.answers Tenancy.step Tenancy.vacant uses ∧
      (TicketUse.after TicketUse.perform TicketRack.empty uses).Shows
        (TicketUse.after Tenancy.step Tenancy.vacant uses) ∧
      (TicketUse.after TicketUse.perform TicketRack.empty uses).Exclusive := by
  obtain ⟨shows, answers⟩ := TicketUse.shows_after TicketRack.shows_empty uses
  exact ⟨answers, shows, shows.exclusive⟩

end ChannelMembership
