import Mathlib.Algebra.Order.Ring.Nat
import ChannelMembership.Proofs.Text.Bytes

/-!
# Keys as text

A key is displayed by all of its hexadecimal digits, zeros in front included.  So the digits denote the
key, and no two keys look alike.  As all displays have the same length, the first digits that differ
decide, and they are ordered as the keys are.
-/

namespace ChannelMembership

namespace Hex

/-- The digits in use, in the order of their values. -/
def alphabet : List Char :=
  ['0', '1', '2', '3', '4', '5', '6', '7', '8', '9', 'a', 'b', 'c', 'd', 'e', 'f']

/-- The number that hexadecimal digits denote; absent if some symbol is not a digit. -/
def value? (text : List Char) : Option Nat :=
  text.foldlM (fun n c => (digit? c).map fun digit => n * 16 + digit) 0

theorem digitChar_mem_alphabet {digit : Nat} (small : digit < 16) :
    Nat.digitChar digit ∈ alphabet := by
  revert digit
  decide

theorem digitChar_lt {a b : Nat} (below : a < b) (small : b < 16) :
    Nat.digitChar a < Nat.digitChar b := by
  have all : ∀ b < 16, ∀ a < b, Nat.digitChar a < Nat.digitChar b := by decide
  exact all b small a below

theorem fixed_subset_alphabet (width n : Nat) : fixed width n ⊆ alphabet := by
  induction width generalizing n with
  | zero => exact List.nil_subset _
  | succ width ih =>
      have last := digitChar_mem_alphabet (Nat.mod_lt n (show 0 < 16 by decide))
      rw [fixed, List.append_subset]
      exact ⟨ih _, List.cons_subset.2 ⟨last, List.nil_subset _⟩⟩

/-- The digits denote the number, as far as there are enough of them. -/
theorem value?_fixed (width n : Nat) : value? (fixed width n) = some (n % 16 ^ width) := by
  induction width generalizing n with
  | zero => simp [fixed, value?, Nat.mod_one]
  | succ width ih =>
      have last := digit?_digitChar (Nat.mod_lt n (show 0 < 16 by decide))
      have split : n % 16 ^ (width + 1) = n / 16 % 16 ^ width * 16 + n % 16 := by
        rw [Nat.pow_succ, Nat.mul_comm, Nat.mod_mul]
        omega
      simp only [value?] at ih ⊢
      rw [fixed, List.foldlM_append, ih]
      simp [last, split]

/-- Whatever follows texts of the same length does not matter if they differ. -/
theorem append_lt_append {s t : List Char} (below : s < t) (same : s.length = t.length)
    (u v : List Char) : s ++ u < t ++ v := by
  induction s generalizing t with
  | nil =>
      cases t with
      | nil => exact absurd below (List.lt_irrefl [])
      | cons b t => cases same
  | cons a s ih =>
      cases t with
      | nil => cases same
      | cons b t =>
          refine List.cons_lt_cons_iff.2 ((List.cons_lt_cons_iff.1 below).imp_right ?_)
          exact And.imp_right fun later => ih later (Nat.succ.inj same)

/-- The smaller of two numbers has the smaller digits. -/
theorem fixed_lt_fixed {width m n : Nat} (below : m < n) (small : n < 16 ^ width) :
    fixed width m < fixed width n := by
  induction width generalizing m n with
  | zero => omega
  | succ width ih =>
      have fits : n / 16 < 16 ^ width := by
        rw [Nat.pow_succ] at small
        omega
      rcases Nat.lt_or_ge (m / 16) (n / 16) with front | behind
      · exact append_lt_append (ih front fits) (by rw [length_fixed, length_fixed]) _ _
      · have same : m / 16 = n / 16 := by omega
        have last : Nat.digitChar (m % 16) < Nat.digitChar (n % 16) :=
          digitChar_lt (by omega) (Nat.mod_lt n (by decide))
        rw [fixed, fixed, same]
        exact List.append_left_lt (List.cons_lt_cons_iff.2 (.inl last))

end Hex

namespace Ascending

variable {α β : Type} {le : α → α → Bool} {le' : β → β → Bool} {f : α → β}

theorem place_map (same : ∀ a b, le' (f a) (f b) = le a b) (a : α) (items : List α) :
    place le' (f a) (items.map f) = (place le a items).map f := by
  induction items with
  | nil => rfl
  | cons b rest ih =>
      simp only [List.map_cons, place, same, ih]
      split <;> rfl

/-- To sort what is shown of some elements is to sort the elements, if both are compared alike. -/
theorem sort_map (same : ∀ a b, le' (f a) (f b) = le a b) (items : List α) :
    sort le' (items.map f) = (sort le items).map f := by
  induction items with
  | nil => rfl
  | cons a rest ih => rw [List.map_cons, sort, ih, place_map same, sort]

end Ascending

namespace UserKey

theorem toList_hex (user : UserKey) : user.hex.toList = Hex.fixed 32 user.toNat :=
  String.toList_ofList

theorem toNat_lt (user : UserKey) : user.toNat < 16 ^ 32 := user.value.isLt

theorem value?_hex (user : UserKey) : Hex.value? user.hex.toList = some user.toNat := by
  rw [toList_hex, Hex.value?_fixed, Nat.mod_eq_of_lt user.toNat_lt]

theorem hex_injective : Function.Injective hex := by
  intro a b same
  have value : some a.toNat = some b.toNat := by rw [← value?_hex, same, value?_hex]
  obtain ⟨a⟩ := a
  obtain ⟨b⟩ := b
  exact congrArg mk (Fin.ext (Option.some.inj value))

theorem bytes_hex_lt {a b : UserKey} (below : a < b) : Bytes.ofText a.hex < Bytes.ofText b.hex := by
  refine Bytes.ofText_lt (String.lt_iff.2 ?_)
  rw [toList_hex, toList_hex]
  exact Hex.fixed_lt_fixed below b.toNat_lt

theorem bytes_hex_lt_iff (a b : UserKey) : Bytes.ofText a.hex < Bytes.ofText b.hex ↔ a < b := by
  refine ⟨fun below => ?_, bytes_hex_lt⟩
  rcases Nat.lt_trichotomy a.toNat b.toNat with less | same | greater
  · exact less
  · have equal : a = b := hex_injective (by rw [hex, hex, same])
    exact absurd (equal ▸ below) (List.lt_irrefl _)
  · exact absurd (bytes_hex_lt greater) (List.lt_asymm below)

theorem bytes_hex_le_iff (a b : UserKey) : Bytes.ofText a.hex ≤ Bytes.ofText b.hex ↔ a ≤ b := by
  rw [← List.not_lt, bytes_hex_lt_iff]
  exact Nat.not_lt

end UserKey

/-- A key is displayed by exactly 32 digits, which denote it, so that no two keys are displayed alike.
The order of the keys is the order of the bytes of their displays, and sorting by the one is sorting by
the other. -/
theorem key_display_faithful :
    (∀ user : UserKey, user.hex.toList.length = 32 ∧ user.hex.toList ⊆ Hex.alphabet ∧
      Hex.value? user.hex.toList = some user.toNat) ∧
    (∀ a b : UserKey, a.hex = b.hex ↔ a = b) ∧
    (∀ a b : UserKey, a < b ↔ Bytes.ofText a.hex < Bytes.ofText b.hex) ∧
    ∀ users : List UserKey,
      Ascending.sort (fun s t => decide (Bytes.ofText s ≤ Bytes.ofText t))
          (users.map UserKey.hex) =
        (Ascending.sort (fun a b => decide (a ≤ b)) users).map UserKey.hex := by
  refine ⟨fun user => ⟨?_, ?_, user.value?_hex⟩, fun a b => UserKey.hex_injective.eq_iff,
    fun a b => (UserKey.bytes_hex_lt_iff a b).symm, Ascending.sort_map fun a b => ?_⟩
  · rw [user.toList_hex, Hex.length_fixed]
  · rw [user.toList_hex]
    exact Hex.fixed_subset_alphabet 32 user.toNat
  · exact decide_eq_decide.2 (UserKey.bytes_hex_le_iff a b)

example : (UserKey.mk 255).hex = "000000000000000000000000000000ff" := by decide +kernel

end ChannelMembership
