import Mathlib.Data.List.Nodup

/-!
# Lists with keys

What is found under a key after something has been put in front, taken out or replaced.
-/

namespace ChannelMembership

variable {α β : Type} [DecidableEq α]

theorem lookup_cons_eq (key other : α) (value : β) (entries : List (α × β)) :
    ((key, value) :: entries).lookup other =
      if other = key then some value else entries.lookup other := by
  by_cases same : other = key
  · simp [same]
  · rw [List.lookup_cons, beq_eq_false_iff_ne.2 same, if_neg same]

theorem lookup_filter_ne (entries : List (α × β)) (key other : α) :
    (entries.filter fun entry => entry.1 ≠ key).lookup other =
      if other = key then none else entries.lookup other := by
  induction entries with
  | nil => simp
  | cons entry rest induction =>
      obtain ⟨owner, value⟩ := entry
      by_cases kept : owner = key
      · rw [List.filter_cons_of_neg (by simp [kept]), induction, lookup_cons_eq, kept]
        split <;> rfl
      · rw [List.filter_cons_of_pos (by simp [kept]), lookup_cons_eq, lookup_cons_eq, induction]
        by_cases same : other = key
        · simp [same, Ne.symm kept]
        · simp [same]

/-- Replacing what stands under a key shows there, if the key occurs. -/
theorem lookup_map_replace (entries : List (α × β)) (key other : α) (value : β) :
    (entries.map fun entry => if entry.1 = key then (key, value) else entry).lookup other =
      if other = key then (entries.lookup key).map fun _ => value else entries.lookup other := by
  induction entries with
  | nil => simp
  | cons entry rest induction =>
      obtain ⟨owner, former⟩ := entry
      rw [List.map_cons]
      by_cases here : owner = key
      · subst here
        rw [if_pos rfl, lookup_cons_eq, lookup_cons_eq, lookup_cons_eq, induction]
        by_cases same : other = owner <;> simp [same]
      · rw [if_neg here, lookup_cons_eq, lookup_cons_eq, lookup_cons_eq, induction,
          if_neg (Ne.symm here)]
        by_cases same : other = key
        · simp [same, Ne.symm here]
        · simp [same]

theorem map_fst_replace (entries : List (α × β)) (key : α) (value : β) :
    (entries.map fun entry => if entry.1 = key then (key, value) else entry).map Prod.fst =
      entries.map Prod.fst := by
  rw [List.map_map]
  refine List.map_congr_left fun entry _ => ?_
  by_cases here : entry.1 = key <;> simp [here]

theorem mem_of_lookup {entries : List (α × β)} {key : α} {value : β}
    (found : entries.lookup key = some value) : (key, value) ∈ entries := by
  obtain ⟨before, after, rfl, -⟩ := List.lookup_eq_some_iff.1 found
  exact List.mem_append_right before List.mem_cons_self

/-- With different keys an entry is found under its key. -/
theorem lookup_of_mem {entries : List (α × β)} (distinct : (entries.map Prod.fst).Nodup)
    {key : α} {value : β} (member : (key, value) ∈ entries) :
    entries.lookup key = some value := by
  induction entries with
  | nil => cases member
  | cons entry rest induction =>
      obtain ⟨fresh, distinct_rest⟩ := List.nodup_cons.1 distinct
      rw [← entry.eta, lookup_cons_eq]
      rcases List.mem_cons.1 member with rfl | later
      · exact if_pos rfl
      · have apart : key ≠ entry.1 := fun same => fresh (same ▸ List.mem_map_of_mem later)
        rw [if_neg apart, induction distinct_rest later]

end ChannelMembership
