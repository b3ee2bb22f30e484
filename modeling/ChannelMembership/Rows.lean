/-!
# Rows

A finite relation between two types can be kept in rows.  An element on the left has a row as long
as it has a partner: the row is made for the first partner, and it goes with the last one.
-/

namespace ChannelMembership
namespace Rows

variable {α β : Type}

/-- Rows of different elements, in which somebody is listed and nobody twice. -/
structure Tidy (rows : List (α × List β)) : Prop where
  /-- No element has two rows. -/
  distinct : (rows.map Prod.fst).Nodup
  /-- No row is empty, and nobody is listed twice in a row. -/
  filled : ∀ entry ∈ rows, entry.2 ≠ [] ∧ entry.2.Nodup

theorem tidy_nil : Tidy ([] : List (α × List β)) := ⟨List.nodup_nil, nofun⟩

theorem tidy_cons {a : α} {row : List β} {rest : List (α × List β)} :
    Tidy ((a, row) :: rest) ↔
      a ∉ rest.map Prod.fst ∧ (row ≠ [] ∧ row.Nodup) ∧ Tidy rest := by
  constructor
  · rintro ⟨distinct, filled⟩
    obtain ⟨fresh, distinct⟩ := List.nodup_cons.1 distinct
    exact ⟨fresh, filled _ List.mem_cons_self, distinct,
      fun entry member => filled entry (List.mem_cons_of_mem _ member)⟩
  · rintro ⟨fresh, first, distinct, filled⟩
    refine ⟨List.nodup_cons.2 ⟨fresh, distinct⟩, fun entry member => ?_⟩
    rcases List.mem_cons.1 member with rfl | later
    · exact first
    · exact filled entry later

section Left

variable [DecidableEq α]

/-- The partners in the row of an element; without a row there are none. -/
def partners (a : α) : List (α × List β) → List β
  | [] => []
  | (c, row) :: rest => if c = a then row else partners a rest

theorem partners_of_not_mem {a : α} {rows : List (α × List β)} (absent : a ∉ rows.map Prod.fst) :
    partners a rows = [] := by
  induction rows with
  | nil => rfl
  | cons entry rest ih =>
      obtain ⟨first, later⟩ := not_or.1 fun either => absent (List.mem_cons.2 either)
      simp only [partners, if_neg (Ne.symm first), ih later]

theorem mem_of_partners_ne_nil {a : α} {rows : List (α × List β)} (some : partners a rows ≠ []) :
    (a, partners a rows) ∈ rows := by
  induction rows with
  | nil => exact absurd rfl some
  | cons entry rest ih =>
      by_cases here : entry.1 = a
      · simp [partners, ← here]
      · simp only [partners, if_neg here] at some ⊢
        exact List.mem_cons_of_mem _ (ih some)

theorem Tidy.partners_of_mem {rows : List (α × List β)} (tidy : Tidy rows) {a : α} {row : List β}
    (member : (a, row) ∈ rows) : partners a rows = row := by
  induction rows with
  | nil => cases member
  | cons entry rest ih =>
      obtain ⟨fresh, -, tidy_rest⟩ := tidy_cons.1 tidy
      rcases List.mem_cons.1 member with rfl | later
      · simp [partners]
      · have apart : entry.1 ≠ a := fun same => fresh (same ▸ List.mem_map_of_mem later)
        simp only [partners, if_neg apart, ih tidy_rest later]

/-- An element has a row exactly if it has a partner. -/
theorem Tidy.mem_keys_iff {rows : List (α × List β)} (tidy : Tidy rows) (a : α) :
    a ∈ rows.map Prod.fst ↔ partners a rows ≠ [] := by
  constructor
  · intro listed
    obtain ⟨⟨c, row⟩, member, rfl⟩ := List.mem_map.1 listed
    rw [tidy.partners_of_mem member]
    exact (tidy.filled _ member).1
  · exact fun some => List.mem_map_of_mem (mem_of_partners_ne_nil some)

theorem Tidy.nodup_partners {rows : List (α × List β)} (tidy : Tidy rows) (a : α) :
    (partners a rows).Nodup := by
  by_cases none : partners a rows = []
  · rw [none]
    exact List.nodup_nil
  · exact (tidy.filled _ (mem_of_partners_ne_nil none)).2

end Left

section Right

variable [DecidableEq β]

/-- An entry from whose row a partner is taken out; it goes if nobody is left. -/
def without (b : β) (entry : α × List β) : Option (α × List β) :=
  if (entry.2.erase b).isEmpty then none else some (entry.1, entry.2.erase b)

/-- Take a partner out of every row. -/
def eraseRight (b : β) (rows : List (α × List β)) : List (α × List β) :=
  rows.filterMap (without b)

theorem without_eq_some {b : β} {entry left : α × List β} (kept : without b entry = some left) :
    left = (entry.1, entry.2.erase b) ∧ entry.2.erase b ≠ [] := by
  unfold without at kept
  split at kept
  · cases kept
  · rename_i filled
    exact ⟨(Option.some.inj kept).symm, fun none => filled (List.isEmpty_iff.2 none)⟩

theorem tidy_without_append {c : α} {b : β} {row : List β} {rest : List (α × List β)}
    (fresh : c ∉ rest.map Prod.fst) (once : row.Nodup) (tidy : Tidy rest) :
    Tidy ((without b (c, row)).toList ++ rest) := by
  cases kept : without b (c, row) with
  | none => exact tidy
  | some left =>
      obtain ⟨rfl, filled⟩ := without_eq_some kept
      exact tidy_cons.2 ⟨fresh, ⟨filled, once.erase b⟩, tidy⟩

theorem eraseRight_cons (b : β) (entry : α × List β) (rest : List (α × List β)) :
    eraseRight b (entry :: rest) = (without b entry).toList ++ eraseRight b rest := by
  cases kept : without b entry <;> simp [eraseRight, kept]

theorem mem_keys_of_mem_eraseRight {c : α} {b : β} {rows : List (α × List β)}
    (member : c ∈ (eraseRight b rows).map Prod.fst) : c ∈ rows.map Prod.fst := by
  obtain ⟨left, kept, rfl⟩ := List.mem_map.1 member
  obtain ⟨entry, former, stays⟩ := List.mem_filterMap.1 kept
  obtain ⟨rfl, -⟩ := without_eq_some stays
  exact List.mem_map.2 ⟨entry, former, rfl⟩

theorem Tidy.eraseRight {rows : List (α × List β)} (tidy : Tidy rows) (b : β) :
    Tidy (eraseRight b rows) := by
  induction rows with
  | nil => exact tidy_nil
  | cons entry rest ih =>
      obtain ⟨fresh, ⟨-, once⟩, tidy_rest⟩ := tidy_cons.1 tidy
      rw [eraseRight_cons]
      exact tidy_without_append (fun member => fresh (mem_keys_of_mem_eraseRight member)) once
        (ih tidy_rest)

end Right

variable [DecidableEq α] [DecidableEq β]

/-- Put a partner into the row of an element, which is made if there is none yet. -/
def insert (a : α) (b : β) : List (α × List β) → List (α × List β)
  | [] => [(a, [b])]
  | (c, row) :: rest =>
    if c = a then (c, row.insert b) :: rest else (c, row) :: insert a b rest

/-- Take a partner out of the row of an element. -/
def erase (a : α) (b : β) : List (α × List β) → List (α × List β)
  | [] => []
  | (c, row) :: rest =>
    if c = a then (without b (c, row)).toList ++ rest else (c, row) :: erase a b rest

theorem partners_insert (a c : α) (b : β) (rows : List (α × List β)) :
    partners c (insert a b rows) =
      if c = a then (partners a rows).insert b else partners c rows := by
  induction rows with
  | nil => by_cases same : c = a <;> simp [insert, partners, same, Ne.symm]
  | cons entry rest ih =>
      obtain ⟨e, row⟩ := entry
      by_cases here : e = a
      · subst here
        by_cases same : c = e
        · simp [insert, partners, same]
        · simp [insert, partners, same, Ne.symm same]
      · by_cases same : e = c
        · subst same
          simp [insert, partners, here]
        · simp [insert, partners, here, same, ih]

theorem mem_keys_insert (a c : α) (b : β) (rows : List (α × List β)) :
    c ∈ (insert a b rows).map Prod.fst ↔ c = a ∨ c ∈ rows.map Prod.fst := by
  induction rows with
  | nil => simp [insert]
  | cons entry rest ih =>
      by_cases here : entry.1 = a
      · simp [insert, here]
      · simp only [insert, if_neg here, List.map_cons, List.mem_cons, ih]
        exact or_left_comm

theorem Tidy.insert {rows : List (α × List β)} (tidy : Tidy rows) (a : α) (b : β) :
    Tidy (insert a b rows) := by
  induction rows with
  | nil => exact tidy_cons.2 ⟨by simp, by simp, tidy_nil⟩
  | cons entry rest ih =>
      obtain ⟨c, row⟩ := entry
      obtain ⟨fresh, ⟨filled, once⟩, tidy_rest⟩ := tidy_cons.1 tidy
      by_cases here : c = a
      · simp only [Rows.insert, if_pos here]
        refine tidy_cons.2 ⟨fresh, ⟨List.ne_nil_of_mem List.mem_insert_self, ?_⟩, tidy_rest⟩
        by_cases present : b ∈ row
        · rwa [List.insert_of_mem present]
        · rw [List.insert_of_not_mem present]
          exact List.nodup_cons.2 ⟨present, once⟩
      · simp only [Rows.insert, if_neg here]
        refine tidy_cons.2 ⟨fun member => ?_, ⟨filled, once⟩, ih tidy_rest⟩
        rcases (mem_keys_insert a c b rest).1 member with same | later
        · exact here same
        · exact fresh later

/-- Putting in a partner who is there already changes nothing. -/
theorem insert_of_mem {a : α} {b : β} {rows : List (α × List β)} (present : b ∈ partners a rows) :
    insert a b rows = rows := by
  induction rows with
  | nil => cases present
  | cons entry rest ih =>
      obtain ⟨c, row⟩ := entry
      by_cases here : c = a
      · simp only [partners, if_pos here] at present
        simp [insert, here, List.insert_of_mem present]
      · simp only [partners, if_neg here] at present
        simp [insert, here, ih present]

/-- Where a row is left out because nobody is left in it, there are no partners either. -/
theorem partners_without_append {c : α} {row : List β} {rest : List (α × List β)}
    (fresh : c ∉ rest.map Prod.fst) (a : α) (b : β) :
    partners a ((without b (c, row)).toList ++ rest) =
      if a = c then row.erase b else partners a rest := by
  cases kept : without b (c, row) with
  | none =>
      have nobody : row.erase b = [] := by
        unfold without at kept
        split at kept
        · rename_i nobody
          exact List.isEmpty_iff.1 nobody
        · cases kept
      by_cases same : a = c
      · simp [same, nobody, partners_of_not_mem fresh]
      · simp [same]
  | some left =>
      obtain ⟨rfl, -⟩ := without_eq_some kept
      by_cases same : a = c
      · simp [partners, same]
      · simp [partners, same, Ne.symm same]

theorem mem_keys_of_mem_erase {a c : α} {b : β} {rows : List (α × List β)}
    (member : c ∈ (erase a b rows).map Prod.fst) : c ∈ rows.map Prod.fst := by
  induction rows with
  | nil => exact member
  | cons entry rest ih =>
      by_cases here : entry.1 = a
      · simp only [erase, if_pos here] at member
        cases kept : without b entry with
        | none =>
            rw [kept] at member
            exact List.mem_cons_of_mem _ member
        | some left =>
            obtain ⟨rfl, -⟩ := without_eq_some kept
            rw [kept] at member
            exact member
      · simp only [erase, if_neg here, List.map_cons, List.mem_cons] at member ⊢
        exact member.imp_right ih

theorem Tidy.erase {rows : List (α × List β)} (tidy : Tidy rows) (a : α) (b : β) :
    Tidy (erase a b rows) := by
  induction rows with
  | nil => exact tidy_nil
  | cons entry rest ih =>
      obtain ⟨fresh, ⟨filled, once⟩, tidy_rest⟩ := tidy_cons.1 tidy
      by_cases here : entry.1 = a
      · simp only [Rows.erase, if_pos here]
        exact tidy_without_append fresh once tidy_rest
      · simp only [Rows.erase, if_neg here]
        exact tidy_cons.2 ⟨fun member => fresh (mem_keys_of_mem_erase member), ⟨filled, once⟩,
          ih tidy_rest⟩

theorem Tidy.partners_erase {rows : List (α × List β)} (tidy : Tidy rows) (a c : α) (b : β) :
    partners c (Rows.erase a b rows) =
      if c = a then (partners a rows).erase b else partners c rows := by
  induction rows with
  | nil => by_cases same : c = a <;> simp [Rows.erase, partners, same]
  | cons entry rest ih =>
      obtain ⟨e, row⟩ := entry
      obtain ⟨fresh, -, tidy_rest⟩ := tidy_cons.1 tidy
      by_cases here : e = a
      · subst here
        simp only [Rows.erase, if_true, partners_without_append fresh]
        by_cases same : c = e
        · simp [partners, same]
        · simp [partners, same, Ne.symm same]
      · by_cases same : e = c
        · subst same
          simp [Rows.erase, partners, here]
        · simp [Rows.erase, partners, here, same, ih tidy_rest]

/-- Taking out a partner who is not there changes nothing, since no row was empty. -/
theorem Tidy.erase_of_not_mem {rows : List (α × List β)} (tidy : Tidy rows) {a : α} {b : β}
    (absent : b ∉ partners a rows) : Rows.erase a b rows = rows := by
  induction rows with
  | nil => rfl
  | cons entry rest ih =>
      obtain ⟨c, row⟩ := entry
      obtain ⟨-, ⟨filled, -⟩, tidy_rest⟩ := tidy_cons.1 tidy
      by_cases here : c = a
      · simp only [partners, if_pos here] at absent
        simp [Rows.erase, here, without, List.erase_of_not_mem absent, filled]
      · simp only [partners, if_neg here] at absent
        simp [Rows.erase, here, ih tidy_rest absent]

theorem Tidy.partners_eraseRight {rows : List (α × List β)} (tidy : Tidy rows) (a : α) (b : β) :
    partners a (Rows.eraseRight b rows) = (partners a rows).erase b := by
  induction rows with
  | nil => rfl
  | cons entry rest ih =>
      obtain ⟨fresh, -, tidy_rest⟩ := tidy_cons.1 tidy
      rw [eraseRight_cons,
        partners_without_append fun member => fresh (mem_keys_of_mem_eraseRight member)]
      by_cases same : a = entry.1
      · simp [partners, same]
      · simp [partners, same, Ne.symm same, ih tidy_rest]

end Rows
end ChannelMembership
