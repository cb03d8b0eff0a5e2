import Clausal.Text.Cut

/-! Decimal fractions, read and written positionally.

A decimal is a natural number of steps of size `10 ^ -places`. Signs, exponents and digit grouping
have no place here, so every decimal is non-negative.
-/

set_option autoImplicit false

namespace Clausal

/-- The number `numerator / 10 ^ places`. -/
structure Decimal where
  numerator : Nat
  places : Nat
  deriving DecidableEq

namespace Decimal

/-- Digits that denote a number together: at least one, and nothing else. -/
def areDigits (cs : List Char) : Bool :=
  !cs.isEmpty && cs.all Char.isDigit

/-- Read digits with at most one point among them. The point may come first or last. -/
def read? (cs : List Char) : Option Decimal :=
  match Text.cutFirst '.' cs with
  | none => if areDigits cs then some ⟨Nat.ofDigitChars 10 cs 0, 0⟩ else none
  | some (whole, fraction) =>
    if areDigits (whole ++ fraction) then
      some ⟨Nat.ofDigitChars 10 (whole ++ fraction) 0, fraction.length⟩
    else none

/-- The digits of the fractional part, without the zeros that end it. -/
def fractionDigits (decimal : Decimal) : List Char :=
  let digits := Nat.toDigits 10 (decimal.numerator % Nat.pow 10 decimal.places)
  let padded := List.replicate (decimal.places - digits.length) '0' ++ digits
  (padded.reverse.dropWhile (· == '0')).reverse

/-- The shortest positional text: no exponent, no zeros at the end of the fraction, and a point only
in front of a fraction. -/
def render (decimal : Decimal) : List Char :=
  let whole := Nat.toDigits 10 (decimal.numerator / Nat.pow 10 decimal.places)
  if decimal.numerator % Nat.pow 10 decimal.places = 0 then whole
  else whole ++ '.' :: decimal.fractionDigits

end Decimal

end Clausal
