/-!
# Hexadecimal text

Digits are written in lower case.  `fixed` pads with zeros on the left and keeps exactly the
requested number of digits; `shortest` writes no leading zero.
-/

namespace ChannelMembership
namespace Hex

/-- The `width` lowest hexadecimal digits of a number, most significant digit first. -/
def fixed : Nat → Nat → List Char
  | 0, _ => []
  | width + 1, n => fixed width (n / 16) ++ [Nat.digitChar (n % 16)]

@[simp]
theorem length_fixed (width n : Nat) : (fixed width n).length = width := by
  induction width generalizing n with
  | zero => rfl
  | succ width ih => simp [fixed, ih]

/-- A number in hexadecimal without leading zeros. -/
def shortest (n : Nat) : List Char :=
  Nat.toDigits 16 n

/-- The value of one hexadecimal digit of either case. -/
def digit? (c : Char) : Option Nat :=
  if '0' ≤ c ∧ c ≤ '9' then some (c.toNat - '0'.toNat)
  else if 'a' ≤ c ∧ c ≤ 'f' then some (c.toNat - 'a'.toNat + 10)
  else if 'A' ≤ c ∧ c ≤ 'F' then some (c.toNat - 'A'.toNat + 10)
  else none

theorem digit?_digitChar {digit : Nat} (small : digit < 16) :
    digit? (Nat.digitChar digit) = some digit := by
  revert digit
  decide

end Hex
end ChannelMembership
