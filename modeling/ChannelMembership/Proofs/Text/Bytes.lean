import Mathlib.Data.List.Basic
import ChannelMembership.Identity

/-!
# Names as bytes

Names are compared symbol by symbol.  Written as bytes of UTF-8 they keep that order.  A longer code
belongs to a greater symbol and begins with a greater byte, and codes of one length are compared
digit by digit, so the first symbols that differ also decide about the bytes.
-/

namespace ChannelMembership
namespace Bytes

/-- The bytes of a text. -/
def ofText (text : String) : List UInt8 := text.toUTF8.data.toList

theorem ofText_eq_flatMap (text : String) :
    ofText text = text.toList.flatMap String.utf8EncodeChar := by
  rw [ofText, String.toUTF8_eq_toByteArray, ← String.utf8Encode_toList]
  exact List.toList_data_toByteArray

/-- The lowest three digits of a number, of six bits each, and what stands above them. -/
private theorem sextets (n : Nat) :
    n = 64 * (n / 64) + n % 64 ∧ n / 64 = 64 * (n / 4096) + n / 64 % 64 ∧
      n / 4096 = 64 * (n / 262144) + n / 4096 % 64 := by
  omega

/-- The code of the smaller symbol comes first, whatever follows. -/
theorem utf8EncodeChar_append_lt {a b : Char} (below : a < b) (s t : List UInt8) :
    String.utf8EncodeChar a ++ s < String.utf8EncodeChar b ++ t := by
  have below : a.toNat < b.toNat := below
  have bounded : b.toNat < 0x110000 := by
    have valid := b.valid
    simp only [UInt32.isValidChar, Nat.isValidChar, Char.toNat_val] at valid
    omega
  simp only [String.utf8EncodeChar, Char.toNat_val]
  generalize a.toNat = m at *
  generalize b.toNat = n at *
  have sextets_m := sextets m
  have sextets_n := sextets n
  have first_m : m / 262144 % 8 = m / 262144 := by omega
  have first_n : n / 262144 % 8 = n / 262144 := by omega
  -- one case for every pair of lengths of the two codes
  split_ifs <;>
    simp (disch := simp only [UInt8.size]; omega) only [List.cons_append, List.nil_append,
      List.cons_lt_cons_iff, UInt8.lt_iff_toNat_lt, ← UInt8.toNat_inj, UInt8.toNat_ofNat_of_lt',
      first_m, first_n] <;>
    omega

theorem flatMap_utf8EncodeChar_lt {s t : List Char} (below : s < t) :
    s.flatMap String.utf8EncodeChar < t.flatMap String.utf8EncodeChar := by
  induction s generalizing t with
  | nil =>
      cases t with
      | nil => exact absurd below (List.lt_irrefl [])
      | cons b t =>
          obtain ⟨first, rest, code⟩ :=
            List.exists_cons_of_ne_nil (String.utf8EncodeChar_ne_nil (c := b))
          simp [code]
  | cons a s ih =>
      cases t with
      | nil => exact absurd below (List.not_lt_nil _)
      | cons b t =>
          simp only [List.flatMap_cons]
          rcases List.cons_lt_cons_iff.1 below with smaller | ⟨rfl, later⟩
          · exact utf8EncodeChar_append_lt smaller _ _
          · exact List.append_left_lt (ih later)

/-- The smaller of two texts has the smaller bytes. -/
theorem ofText_lt {s t : String} (below : s < t) : ofText s < ofText t := by
  rw [ofText_eq_flatMap, ofText_eq_flatMap]
  exact flatMap_utf8EncodeChar_lt (String.lt_iff.1 below)

end Bytes

/-- Channels that ascend strictly by name ascend strictly by the bytes of their names. -/
theorem Ascending.Strict.pairwise_bytes_lt {channels : List Channel} (strict : Strict channels) :
    channels.Pairwise fun a b => Bytes.ofText a.name < Bytes.ofText b.name := by
  refine strict.imp fun {a b} below => Bytes.ofText_lt ?_
  have le : a.name ≤ b.name := below.1
  exact Std.lt_of_le_of_ne le fun same => below.2 (congrArg Channel.mk same)

end ChannelMembership
