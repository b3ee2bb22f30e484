/-!
# Binary floating-point numbers as exact values

A finite double is a signed dyadic number.  `Binary64.ofFloat` reads it off the bit pattern, so that
everything else can be computed and stated with natural numbers.
-/

namespace ChannelMembership

/-- The value of a double. -/
inductive Binary64 where
  /-- Not a number. -/
  | nan
  /-- An infinity. -/
  | infinite (negative : Bool)
  /-- The number `mantissa * 2 ^ (exponent - 1075)`, with its sign. -/
  | finite (negative : Bool) (mantissa exponent : Nat)
  deriving DecidableEq

namespace Binary64

/-- The leading bit of a mantissa, which the bit pattern leaves out. -/
def hiddenBit : Nat := 0x10000000000000

/-- Read a value off its 64-bit pattern. -/
def ofBits (bits : Nat) : Binary64 :=
  let negative := bits / 0x8000000000000000 % 2 = 1
  let exponent := bits / hiddenBit % 2048
  let fraction := bits % hiddenBit
  if exponent = 2047 then
    if fraction = 0 then infinite negative else nan
  else if exponent = 0 then finite negative fraction 1
  else finite negative (hiddenBit + fraction) exponent

/-- The value of a machine double. -/
def ofFloat (x : Float) : Binary64 := ofBits x.toBits.toNat

/-- Numerator and denominator of `mantissa * 2 ^ (exponent - 1075)`. -/
def ratio (mantissa exponent : Nat) : Nat × Nat :=
  if 1075 ≤ exponent then (mantissa * Nat.pow 2 (exponent - 1075), 1)
  else (mantissa, Nat.pow 2 (1075 - exponent))

end Binary64
end ChannelMembership
