import Clausal.Number.Binary64

/-! The fewest digits that read back as the same binary64 number.

Every finite number is a decimal with 1074 places, since one step is `5 ^ 1074` steps of that
decimal grid. Coarser grids are tried from one significant digit upwards. On each of them only the
two neighbours of the exact value can be the closest decimal that reads back, so only those are
tested.
-/

set_option autoImplicit false

namespace Clausal.Binary64

/-- The exact value of a finite number. -/
def toDecimal (x : Binary64) : Decimal :=
  ⟨x.steps * Nat.pow 5 1074, 1074⟩

/-- The closest multiple of `step` that reads back as `x`, looking at the multiples next to the
exact numerator only. Of two equally close ones the greater is taken. -/
def closestOnGrid? (x : Binary64) (exact : Decimal) (step : Nat) : Option Decimal :=
  let below : Decimal := ⟨exact.numerator / step * step, exact.places⟩
  let above : Decimal := ⟨below.numerator + step, exact.places⟩
  let belowReadsBack := ofDecimal below = x
  let aboveReadsBack := ofDecimal above = x
  if belowReadsBack ∧ aboveReadsBack then
    if 2 * (exact.numerator - below.numerator) < step then some below else some above
  else if belowReadsBack then some below
  else if aboveReadsBack then some above
  else none

/-- The closest of the decimals with the fewest significant digits that read back as `x`. Seventeen
digits always suffice; the exact value stands behind them so that nothing depends on it. -/
def shortest (x : Binary64) : Decimal :=
  let exact := x.toDecimal
  let length := (Nat.toDigits 10 exact.numerator).length
  -- With fewer digits in the numerator than on the grid the step is one, which is exact.
  ((List.range 17).findSome? fun digits =>
    x.closestOnGrid? exact (Nat.pow 10 (length - (digits + 1)))).getD exact

/-- The text of a number, never in exponent form. -/
def render (x : Binary64) : String :=
  if x.isFinite then String.ofList x.shortest.render else "inf"

end Clausal.Binary64
