import ChannelMembership.Decimal.Shortest
import ChannelMembership.Transport.Exchange

/-!
# Interference

For trials under failure, calls to the transport are made to fail at a given rate.  Whether the next
call fails is read off a linear congruential generator with a seed, so a trial can be repeated.  A
call that is made to fail never reaches the transport.
-/

namespace ChannelMembership

/-- A failure rate: a fraction from zero to one. -/
structure Rate where
  /-- Numerator of the fraction. -/
  numerator : Nat
  /-- Denominator of the fraction. -/
  denominator : Nat
  /-- The fraction is at most one. -/
  le_one : numerator ≤ denominator
  /-- The fraction has a value. -/
  denominator_pos : 0 < denominator

namespace Rate

/-- A fraction as a rate, if it is one. -/
def ofRatio? (numerator denominator : Nat) : Option Rate :=
  if h : numerator ≤ denominator ∧ 0 < denominator then
    some ⟨numerator, denominator, h.1, h.2⟩
  else none

/-- A double as a rate, if it lies between zero and one; a negative zero does. -/
def ofBinary64? : Binary64 → Option Rate
  | .nan => none
  | .infinite _ => none
  | .finite negative mantissa exponent =>
    if negative && mantissa ≠ 0 then none
    else ofRatio? (Binary64.ratio mantissa exponent).1 (Binary64.ratio mantissa exponent).2

/-- Why a double is not accepted as a rate. -/
def refusal (value : Binary64) : String :=
  "failure_rate must be between 0.0 and 1.0, got " ++ value.text

end Rate

namespace Generator

/-- The generator has values of 32 bits. -/
def modulus : Nat := 0x100000000

/-- One step of the generator; the intermediate result is a number of 64 bits. -/
def next (state : Nat) : Nat :=
  (1664525 * state + 1013904223) % 0x10000000000000000 % modulus

/-- The seed taken when none is given. -/
def defaultSeed : Nat := 0x123456789ABCDEF0

end Generator

/-- The state of the interference. -/
structure Interference where
  /-- How often calls are to fail. -/
  rate : Rate
  /-- State of the generator. -/
  state : Nat
  /-- How many calls were made to fail so far. -/
  injected : Nat

namespace Interference

/-- Interference that has not touched a call yet. -/
def start (rate : Rate) (seed : Nat) : Interference := ⟨rate, seed, 0⟩

/-- Whether a value of the generator makes a call fail. -/
def strikes (rate : Rate) (value : Nat) : Bool :=
  value * rate.denominator < rate.numerator * Generator.modulus

/-- Decide about the next call. -/
def draw (interference : Interference) : Interference × Bool :=
  let value := Generator.next interference.state
  let strike := strikes interference.rate value
  ({ interference with
      state := value
      injected := interference.injected + if strike then 1 else 0 }, strike)

/-- The failure of a call that was made to fail. -/
def failure (call : Call) : TransportError :=
  .failed ("injected " ++ call.kind ++ " failure")

end Interference
end ChannelMembership
