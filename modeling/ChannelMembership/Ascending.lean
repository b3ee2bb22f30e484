/-!
# Ascending lists

Sets are shown as ascending lists without repetitions.  They are built by insertion, which is also
how a list is sorted without losing repetitions; elements that compare equal then keep their order.
Under a linear order a set shown in this way is strictly ascending, so nothing is listed twice.
-/

namespace ChannelMembership
namespace Ascending

variable {α : Type}

/-- Put an element into its place in an ascending list, unless it is there already. -/
def insert [DecidableEq α] (le : α → α → Bool) (a : α) : List α → List α
  | [] => [a]
  | b :: rest =>
    if a = b then b :: rest
    else if le a b then a :: b :: rest
    else b :: insert le a rest

/-- The set of the given elements as an ascending list. -/
def ofList [DecidableEq α] (le : α → α → Bool) : List α → List α
  | [] => []
  | a :: rest => insert le a (ofList le rest)

/-- Put an element before the first one that it may precede. -/
def place (le : α → α → Bool) (a : α) : List α → List α
  | [] => [a]
  | b :: rest => if le a b then a :: b :: rest else b :: place le a rest

/-- Sort a list; elements that compare equal keep their order. -/
def sort (le : α → α → Bool) : List α → List α
  | [] => []
  | a :: rest => place le a (sort le rest)

@[simp]
theorem mem_insert [DecidableEq α] (le : α → α → Bool) (a x : α) (items : List α) :
    x ∈ insert le a items ↔ x = a ∨ x ∈ items := by
  induction items with
  | nil => simp [insert]
  | cons b rest ih =>
    by_cases equal : a = b
    · subst equal
      simp [insert]
    · by_cases before : le a b
      · simp [insert, equal, before]
      · simp only [insert, equal, before, Bool.false_eq_true, if_false, List.mem_cons]
        rw [ih, or_left_comm]

@[simp]
theorem mem_ofList [DecidableEq α] (le : α → α → Bool) (x : α) (items : List α) :
    x ∈ ofList le items ↔ x ∈ items := by
  induction items with
  | nil => simp [ofList]
  | cons a rest ih => simp [ofList, ih]

section Order

variable [LE α]

/-- A list in which every element lies strictly below all later ones. -/
def Strict (items : List α) : Prop := items.Pairwise fun a b => a ≤ b ∧ a ≠ b

theorem Strict.nodup {items : List α} (strict : Strict items) : items.Nodup :=
  List.Pairwise.imp And.right strict

variable [DecidableEq α] [DecidableLE α] [Std.IsLinearOrder α]

theorem Strict.insert {items : List α} (strict : Strict items) (a : α) :
    Strict (insert (fun a b => decide (a ≤ b)) a items) := by
  induction items with
  | nil => simp [Ascending.insert, Strict]
  | cons b rest ih =>
      obtain ⟨below, strict_rest⟩ := List.pairwise_cons.1 strict
      by_cases equal : a = b
      · simpa [Ascending.insert, equal] using strict
      · by_cases before : a ≤ b
        · simp only [Ascending.insert, equal, before, decide_true, if_false, if_true]
          refine List.pairwise_cons.2 ⟨fun x member => ?_, strict⟩
          rcases List.mem_cons.1 member with rfl | later
          · exact ⟨before, equal⟩
          · obtain ⟨le_x, ne_x⟩ := below x later
            refine ⟨Std.le_trans before le_x, ?_⟩
            rintro rfl
            exact ne_x (Std.le_antisymm le_x before)
        · simp only [Ascending.insert, equal, before, decide_false, if_false, Bool.false_eq_true]
          refine List.pairwise_cons.2 ⟨fun x member => ?_, ih strict_rest⟩
          rcases (mem_insert _ _ _ _).1 member with rfl | later
          · exact ⟨Std.le_total.resolve_left before, Ne.symm equal⟩
          · exact below x later

end Order

end Ascending

/-- The set of the given elements as a list in ascending order. -/
def sortedSet {α : Type} [DecidableEq α] [LE α] [DecidableLE α] (items : List α) : List α :=
  Ascending.ofList (fun a b => decide (a ≤ b)) items

@[simp]
theorem mem_sortedSet {α : Type} [DecidableEq α] [LE α] [DecidableLE α] (x : α) (items : List α) :
    x ∈ sortedSet items ↔ x ∈ items :=
  Ascending.mem_ofList _ x items

section SortedSet

variable {α : Type} [DecidableEq α] [LE α] [DecidableLE α] [Std.IsLinearOrder α]

theorem strict_sortedSet (items : List α) : Ascending.Strict (sortedSet items) := by
  induction items with
  | nil => exact List.Pairwise.nil
  | cons a rest ih => exact ih.insert a

theorem nodup_sortedSet (items : List α) : (sortedSet items).Nodup :=
  (strict_sortedSet items).nodup

end SortedSet
end ChannelMembership
