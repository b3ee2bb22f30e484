import ChannelMembership.Ascending
import ChannelMembership.Rows

/-!
# Finite sets of pairs

A finite relation between two types is a set of pairs, kept in rows.  Seen from either side it gives
ascending lists: the partners of an element, and all elements that have a partner.  What is in these
lists is stated in terms of `relates`.
-/

namespace ChannelMembership

/-- A finite set of pairs. -/
structure PairSet (α β : Type) where
  /-- The row of every element that has partners. -/
  rows : List (α × List β)
  /-- The rows are in order. -/
  tidy : Rows.Tidy rows

namespace PairSet

variable {α β : Type}

/-- No pair. -/
def empty : PairSet α β := ⟨[], Rows.tidy_nil⟩

/-- The number of elements that have partners. -/
def count (set : PairSet α β) : Nat := set.rows.length

/-- The number of pairs. -/
def size (set : PairSet α β) : Nat := (set.rows.map fun entry => entry.2.length).foldr (· + ·) 0

variable [DecidableEq α]

/-- Whether an element has a row. -/
def hasRow (set : PairSet α β) (a : α) : Bool := set.rows.any fun entry => entry.1 = a

/-- The elements that have partners. -/
def domain [LE α] [DecidableLE α] (set : PairSet α β) : List α :=
  sortedSet (set.rows.map Prod.fst)

@[simp]
theorem mem_domain [LE α] [DecidableLE α] (set : PairSet α β) (a : α) :
    a ∈ set.domain ↔ set.hasRow a = true := by
  simp [domain, hasRow]

variable [DecidableEq β]

/-- Whether a pair belongs to the set. -/
def relates (set : PairSet α β) (a : α) (b : β) : Bool :=
  (Rows.partners a set.rows).contains b

/-- Add a pair; tells whether it is new. -/
def insert (set : PairSet α β) (a : α) (b : β) : PairSet α β × Bool :=
  (⟨Rows.insert a b set.rows, set.tidy.insert a b⟩, !(Rows.partners a set.rows).contains b)

/-- Remove a pair; tells whether it was there. -/
def erase (set : PairSet α β) (a : α) (b : β) : PairSet α β × Bool :=
  (⟨Rows.erase a b set.rows, set.tidy.erase a b⟩, (Rows.partners a set.rows).contains b)

/-- Remove every pair with a given second component. -/
def eraseRight (set : PairSet α β) (b : β) : PairSet α β :=
  ⟨Rows.eraseRight b set.rows, set.tidy.eraseRight b⟩

@[simp]
theorem relates_empty (a : α) (b : β) : (empty : PairSet α β).relates a b = false := rfl

@[simp]
theorem relates_insert (set : PairSet α β) (a c : α) (b d : β) :
    (set.insert a b).1.relates c d = true ↔ (c = a ∧ d = b) ∨ set.relates c d = true := by
  simp only [relates, insert, List.contains_iff_mem, Rows.partners_insert]
  by_cases same : c = a
  · simp [same]
  · simp [same]

@[simp]
theorem relates_erase (set : PairSet α β) (a c : α) (b d : β) :
    (set.erase a b).1.relates c d = true ↔ ¬(c = a ∧ d = b) ∧ set.relates c d = true := by
  simp only [relates, erase, List.contains_iff_mem, set.tidy.partners_erase]
  by_cases same : c = a
  · simp [same, (set.tidy.nodup_partners a).mem_erase_iff]
  · simp [same]

@[simp]
theorem relates_eraseRight (set : PairSet α β) (c : α) (b d : β) :
    (set.eraseRight b).relates c d = true ↔ d ≠ b ∧ set.relates c d = true := by
  simp only [relates, eraseRight, List.contains_iff_mem, set.tidy.partners_eraseRight,
    (set.tidy.nodup_partners c).mem_erase_iff]

theorem hasRow_iff (set : PairSet α β) (a : α) :
    set.hasRow a = true ↔ ∃ b, set.relates a b = true := by
  have listed : set.hasRow a = true ↔ a ∈ set.rows.map Prod.fst := by simp [hasRow]
  rw [listed, set.tidy.mem_keys_iff]
  simp [relates, List.eq_nil_iff_forall_not_mem]

/-- The partners of an element on the left. -/
def rights [LE β] [DecidableLE β] (set : PairSet α β) (a : α) : List β :=
  sortedSet (Rows.partners a set.rows)

/-- The partners of an element on the right. -/
def lefts [LE α] [DecidableLE α] (set : PairSet α β) (b : β) : List α :=
  sortedSet ((set.rows.filter fun entry => entry.2.contains b).map Prod.fst)

@[simp]
theorem mem_rights [LE β] [DecidableLE β] (set : PairSet α β) (a : α) (b : β) :
    b ∈ set.rights a ↔ set.relates a b = true := by
  simp [rights, relates]

@[simp]
theorem mem_lefts [LE α] [DecidableLE α] (set : PairSet α β) (a : α) (b : β) :
    a ∈ set.lefts b ↔ set.relates a b = true := by
  simp only [lefts, mem_sortedSet, List.mem_map, List.mem_filter, List.contains_iff_mem, relates]
  constructor
  · rintro ⟨⟨c, row⟩, ⟨member, present⟩, rfl⟩
    rwa [set.tidy.partners_of_mem member]
  · intro present
    exact ⟨_, ⟨Rows.mem_of_partners_ne_nil (List.ne_nil_of_mem present), present⟩, rfl⟩

end PairSet
end ChannelMembership
