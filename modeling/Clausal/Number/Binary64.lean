import Clausal.Number.Decimal

/-! Non-negative binary64 numbers.

The non-negative numbers of the format, infinity included, are in order of their bit patterns, so
the pattern itself is the representation. A finite pattern stands for a whole number of steps of
size `2 ^ -1074`; all arithmetic on it is exact arithmetic of natural numbers.
-/

set_option autoImplicit false

namespace Clausal

/-- The quotient of two natural numbers, rounded to the nearest one; a half goes to the even
neighbour. -/
def roundHalfEven (numerator denominator : Nat) : Nat :=
  let quotient := numerator / denominator
  let rest := numerator % denominator
  if 2 * rest < denominator then quotient
  else if denominator < 2 * rest then quotient + 1
  else quotient + quotient % 2

namespace Binary64

/-- The pattern of infinity, the greatest one. -/
def infinityBits : Nat := 2047 * Nat.pow 2 52

end Binary64

structure Binary64 where
  bits : Nat
  le_infinity : bits ≤ Binary64.infinityBits
  deriving DecidableEq

namespace Binary64

def infinity : Binary64 := ⟨infinityBits, Nat.le_refl _⟩

def isFinite (x : Binary64) : Bool :=
  x.bits < infinityBits

/-- The number of steps in one. -/
def one : Nat := Nat.pow 2 1074

/-- The value of a finite pattern, in steps. A zero exponent field marks the numbers that lack the
leading digit of the significand. -/
def steps (x : Binary64) : Nat :=
  let exponent := x.bits / Nat.pow 2 52
  let fraction := x.bits % Nat.pow 2 52
  if exponent = 0 then fraction else (Nat.pow 2 52 + fraction) * Nat.pow 2 (exponent - 1)

/-- The number nearest to `numerator / denominator` steps, the one with an even pattern on a tie.

The significand keeps 53 binary digits. Adding it to the exponent field carries into the field when
rounding reaches the next power of two, and what grows beyond the finite patterns is infinity. -/
def ofRatio (numerator denominator : Nat) : Binary64 :=
  let exponent := Nat.log2 (numerator / denominator) - 52
  let significand := roundHalfEven numerator (denominator * Nat.pow 2 exponent)
  ⟨min (exponent * Nat.pow 2 52 + significand) infinityBits, Nat.min_le_right _ _⟩

def ofDecimal (decimal : Decimal) : Binary64 :=
  ofRatio (decimal.numerator * one) (Nat.pow 10 decimal.places)

/-- The value, if it is a natural number. -/
def toNat? (x : Binary64) : Option Nat :=
  if x.isFinite && x.steps % one == 0 then some (x.steps / one) else none

end Binary64

end Clausal
