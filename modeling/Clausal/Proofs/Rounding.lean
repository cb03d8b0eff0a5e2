import Clausal.Number.Binary64
import Mathlib.Algebra.Order.Field.Basic
import Mathlib.Algebra.Order.Ring.Rat
import Mathlib.Data.Rat.Cast.Order
import Mathlib.Tactic.FieldSimp
import Mathlib.Tactic.Linarith
import Mathlib.Tactic.LinearCombination
import Mathlib.Tactic.Positivity
import Mathlib.Tactic.Ring

/-! Rounding to binary64.

Patterns are in order of their values, so that a number between two neighbouring patterns is nearest
to one of them, and rounding has to look at these two only. Infinity counts as the number that would
come after the greatest finite one; this is how a number too great for the format is rounded, too.
-/

set_option autoImplicit false

namespace Clausal

theorem roundHalfEven_cases (numerator denominator : Nat) :
    let quotient := numerator / denominator
    let rest := numerator % denominator
    (2 * rest < denominator ∧ roundHalfEven numerator denominator = quotient) ∨
    (denominator < 2 * rest ∧ roundHalfEven numerator denominator = quotient + 1) ∨
    (2 * rest = denominator ∧ roundHalfEven numerator denominator % 2 = 0 ∧
      (roundHalfEven numerator denominator = quotient ∨
        roundHalfEven numerator denominator = quotient + 1)) := by
  intro quotient rest
  unfold roundHalfEven
  dsimp only
  split
  · next less => exact .inl ⟨less, rfl⟩
  · next notLess =>
    split
    · next more => exact .inr (.inl ⟨more, rfl⟩)
    · next notMore =>
      have tie : 2 * rest = denominator := by omega
      exact .inr (.inr ⟨tie, by omega, by omega⟩)

namespace Binary64

/-- The steps of a pattern, also beyond the patterns of the format. -/
def stepsAt (bits : Nat) : Nat :=
  let exponent := bits / Nat.pow 2 52
  let fraction := bits % Nat.pow 2 52
  if exponent = 0 then fraction else (Nat.pow 2 52 + fraction) * Nat.pow 2 (exponent - 1)

theorem stepsAt_fields (exponent : Nat) {fraction : Nat} (small : fraction < 2 ^ 52) :
    stepsAt (exponent * 2 ^ 52 + fraction) =
      if exponent = 0 then fraction else (2 ^ 52 + fraction) * 2 ^ (exponent - 1) := by
  have field : (exponent * 2 ^ 52 + fraction) / 2 ^ 52 = exponent := by omega
  have rest : (exponent * 2 ^ 52 + fraction) % 2 ^ 52 = fraction := by omega
  simp only [stepsAt, Nat.pow_eq, field, rest]

/-- A significand carries into the exponent field when it has grown by one digit. -/
theorem stepsAt_scaled {exponent significand : Nat} (high : significand ≤ 2 ^ 53)
    (low : exponent ≠ 0 → 2 ^ 52 ≤ significand) :
    stepsAt (exponent * 2 ^ 52 + significand) = significand * 2 ^ exponent := by
  rcases Nat.lt_or_ge significand (2 ^ 52) with small | normal
  · obtain rfl : exponent = 0 := by
      by_contra scaled
      exact absurd (low scaled) (by omega)
    rw [stepsAt_fields 0 small, if_pos rfl, pow_zero, mul_one]
  · rcases Nat.lt_or_ge significand (2 ^ 53) with inside | carried
    · have pattern : exponent * 2 ^ 52 + significand =
          (exponent + 1) * 2 ^ 52 + (significand - 2 ^ 52) := by omega
      rw [pattern, stepsAt_fields _ (by omega), if_neg (Nat.succ_ne_zero _),
        Nat.add_sub_of_le normal, Nat.add_sub_cancel]
    · have pattern : exponent * 2 ^ 52 + significand = (exponent + 2) * 2 ^ 52 + 0 := by omega
      have grown : significand = 2 ^ 52 * 2 := by omega
      rw [pattern, stepsAt_fields _ (by decide), if_neg (Nat.succ_ne_zero _), grown, Nat.add_zero,
        Nat.mul_assoc, ← pow_succ']
      rfl

/-- Every pattern is an exponent and a significand. -/
theorem exists_scaled (bits : Nat) :
    ∃ exponent significand, bits = exponent * 2 ^ 52 + significand ∧ significand < 2 ^ 53 ∧
      (exponent ≠ 0 → 2 ^ 52 ≤ significand) := by
  refine ⟨bits / 2 ^ 52 - 1, bits - (bits / 2 ^ 52 - 1) * 2 ^ 52, ?_, ?_, ?_⟩ <;> omega

theorem stepsAt_strictMono : StrictMono stepsAt := by
  apply strictMono_nat_of_lt_succ
  intro bits
  obtain ⟨exponent, significand, rfl, high, low⟩ := exists_scaled bits
  rw [Nat.add_assoc, stepsAt_scaled (by omega) low, stepsAt_scaled (by omega) (by omega)]
  exact Nat.mul_lt_mul_of_pos_right (Nat.lt_succ_self _) (by positivity)

/-- The value that a pattern stands for, also beyond the patterns of the format. -/
def valueAt (bits : Nat) : ℚ :=
  stepsAt bits / one

/-- The value of a finite pattern. The one of infinity is only compared with. -/
def value (x : Binary64) : ℚ :=
  x.steps / one

theorem one_pos : (0 : ℚ) < one := by
  have positive : 0 < one := by decide +kernel
  exact_mod_cast positive

theorem value_eq (x : Binary64) : x.value = valueAt x.bits := rfl

theorem value_nonneg (x : Binary64) : 0 ≤ x.value :=
  div_nonneg (Nat.cast_nonneg _) (Nat.cast_nonneg _)

theorem valueAt_strictMono : StrictMono valueAt := by
  intro bits others less
  have steps : (stepsAt bits : ℚ) < stepsAt others := by exact_mod_cast stepsAt_strictMono less
  exact div_lt_div_of_pos_right steps one_pos

theorem value_strictMono {x y : Binary64} (less : x.bits < y.bits) : x.value < y.value :=
  valueAt_strictMono less

theorem eq_of_bits {x y : Binary64} (same : x.bits = y.bits) : x = y := by
  cases x
  cases y
  cases same
  rfl

theorem eq_of_value {x y : Binary64} (same : x.value = y.value) : x = y :=
  eq_of_bits (valueAt_strictMono.injective same)

theorem bits_lt_infinity {x : Binary64} (finite : x ≠ infinity) : x.bits < infinity.bits :=
  lt_of_le_of_ne x.le_infinity fun same => finite (eq_of_bits same)

/-- What rounding to the nearest number comes to: no other one is closer, and the pattern is even
where another one is as close. -/
structure Nearest (x : ℚ) (rounded : Binary64) : Prop where
  closest : ∀ other : Binary64, |rounded.value - x| ≤ |other.value - x|
  even : ∀ other : Binary64, other ≠ rounded → |other.value - x| = |rounded.value - x| →
    rounded.bits % 2 = 0

namespace Nearest

variable {x : ℚ} {rounded other : Binary64}

theorem of_others (closer : ∀ other : Binary64, other ≠ rounded →
    |rounded.value - x| < |other.value - x| ∨
      (|rounded.value - x| = |other.value - x| ∧ rounded.bits % 2 = 0)) :
    Nearest x rounded := by
  constructor
  · intro other
    by_cases same : other = rounded
    · rw [same]
    · rcases closer other same with less | ⟨equal, _⟩
      · exact less.le
      · exact equal.le
  · intro other different equal
    rcases closer other different with less | ⟨_, even⟩
    · exact absurd equal.symm less.ne
    · exact even

theorem abs_sub_lt_of_between {low middle high : ℚ} (above : low < middle) (below : middle < high)
    (equal : |high - x| = |low - x|) : |middle - x| < |low - x| := by
  -- Both ends are equally far, so they lie on the two sides of `x`.
  have centre : high - x = x - low := by
    rcases abs_eq_abs.mp equal with same | opposite <;> linarith
  rw [abs_of_neg (by linarith : low - x < 0), abs_lt]
  constructor <;> linarith

/-- Two nearest numbers would both be even, and an odd one between them would be closer. -/
theorem bits_le (first : Nearest x rounded) (second : Nearest x other) :
    other.bits ≤ rounded.bits := by
  by_contra less
  have less : rounded.bits < other.bits := by omega
  have different : other ≠ rounded := by
    rintro rfl
    omega
  have equal : |other.value - x| = |rounded.value - x| :=
    (second.closest rounded).antisymm (first.closest other)
  have even := first.even other different equal
  have even' := second.even rounded different.symm equal.symm
  have between : rounded.bits + 1 < other.bits := by omega
  have inside : rounded.bits + 1 ≤ infinityBits := between.le.trans other.le_infinity
  have above : rounded.value < (⟨rounded.bits + 1, inside⟩ : Binary64).value :=
    value_strictMono (Nat.lt_succ_self _)
  have below : (⟨rounded.bits + 1, inside⟩ : Binary64).value < other.value :=
    value_strictMono between
  have closer := abs_sub_lt_of_between above below equal
  exact absurd (first.closest ⟨rounded.bits + 1, inside⟩) (not_le.mpr closer)

theorem unique (first : Nearest x rounded) (second : Nearest x other) : rounded = other :=
  eq_of_bits ((second.bits_le first).antisymm (first.bits_le second))

/-- A number of the format is rounded to itself. -/
theorem value_eq_of_exact (nearest : Nearest x rounded) (exact : other.value = x) :
    rounded.value = x := by
  have close := nearest.closest other
  rw [exact, sub_self, abs_zero] at close
  exact sub_eq_zero.mp (abs_eq_zero.mp (close.antisymm (abs_nonneg _)))

/-- Rounding does not go past a number of the format. -/
theorem le_value (nearest : Nearest x rounded) (reached : other.value ≤ x) :
    other.value ≤ rounded.value := by
  by_contra less
  have less : rounded.value < other.value := not_le.mp less
  have closest := nearest.closest other
  rw [abs_of_nonpos (by linarith), abs_of_nonpos (by linarith)] at closest
  linarith

theorem value_le (nearest : Nearest x rounded) (reached : x ≤ other.value) :
    rounded.value ≤ other.value := by
  by_contra more
  have more : other.value < rounded.value := not_le.mp more
  have closest := nearest.closest other
  rw [abs_of_nonneg (by linarith), abs_of_nonneg (by linarith)] at closest
  linarith

theorem refl (x : Binary64) : Nearest x.value x := by
  apply of_others
  intro other different
  left
  rw [sub_self, abs_zero, abs_pos, sub_ne_zero]
  exact fun same => different (eq_of_value same)

end Nearest

section

variable {x : ℚ} {rounded : Binary64} (bits : Nat)

theorem closer_of_le {close near far : ℚ} {even : Prop}
    (closer : close < near ∨ (close = near ∧ even)) (farther : near ≤ far) :
    close < far ∨ (close = far ∧ even) := by
  rcases closer with less | ⟨rfl, even⟩
  · exact .inl (less.trans_le farther)
  · exact farther.lt_or_eq.imp_right fun same => ⟨same, even⟩

/-- Only the two neighbours of a pattern have to be compared with it. -/
theorem nearest_of_neighbours
    (below : ∀ bits, bits + 1 = rounded.bits →
      |rounded.value - x| < x - valueAt bits ∨
        (|rounded.value - x| = x - valueAt bits ∧ rounded.bits % 2 = 0))
    (above : |rounded.value - x| < valueAt (rounded.bits + 1) - x ∨
      (|rounded.value - x| = valueAt (rounded.bits + 1) - x ∧ rounded.bits % 2 = 0)) :
    Nearest x rounded := by
  apply Nearest.of_others
  intro other different
  rcases Nat.lt_or_gt_of_ne fun same => different (eq_of_bits same) with less | more
  · obtain ⟨bits, next⟩ : ∃ bits, bits + 1 = rounded.bits := ⟨rounded.bits - 1, by omega⟩
    have lower : other.value ≤ valueAt bits := valueAt_strictMono.monotone (by omega)
    have distance : x - other.value ≤ |other.value - x| := by
      rw [abs_sub_comm]
      exact le_abs_self _
    exact closer_of_le (below bits next) (by linarith)
  · have upper : valueAt (rounded.bits + 1) ≤ other.value := valueAt_strictMono.monotone more
    have distance : other.value - x ≤ |other.value - x| := le_abs_self _
    exact closer_of_le above (by linarith)

theorem nearest_below (place : rounded.bits = bits) (low : valueAt bits ≤ x)
    (near : x - valueAt bits < valueAt (bits + 1) - x ∨
      (x - valueAt bits = valueAt (bits + 1) - x ∧ rounded.bits % 2 = 0)) :
    Nearest x rounded := by
  subst place
  have distance : |rounded.value - x| = x - valueAt rounded.bits := by
    rw [value_eq, abs_sub_comm]
    exact abs_of_nonneg (sub_nonneg.mpr low)
  apply nearest_of_neighbours
  · intro before next
    have lower : valueAt before < valueAt rounded.bits := valueAt_strictMono (by omega)
    left
    linarith
  · rwa [distance]

theorem nearest_above (place : rounded.bits = bits + 1) (high : x ≤ valueAt (bits + 1))
    (near : valueAt (bits + 1) - x < x - valueAt bits ∨
      (x - valueAt bits = valueAt (bits + 1) - x ∧ rounded.bits % 2 = 0)) :
    Nearest x rounded := by
  have distance : |rounded.value - x| = valueAt (bits + 1) - x := by
    rw [value_eq, place]
    exact abs_of_nonneg (sub_nonneg.mpr high)
  apply nearest_of_neighbours
  · intro before next
    obtain rfl : before = bits := by omega
    rw [distance]
    exact near.imp_right fun tie => ⟨tie.1.symm, tie.2⟩
  · have upper : valueAt (bits + 1) < valueAt (rounded.bits + 1) := valueAt_strictMono (by omega)
    left
    linarith

theorem nearest_infinity (reached : infinity.value ≤ x) : Nearest x infinity := by
  apply Nearest.of_others
  intro other different
  have below := value_strictMono (bits_lt_infinity different)
  left
  rw [abs_of_nonpos (by linarith), abs_of_nonpos (by linarith)]
  linarith

end

theorem valueAt_scaled {exponent significand : Nat} (high : significand ≤ 2 ^ 53)
    (low : exponent ≠ 0 → 2 ^ 52 ≤ significand) :
    valueAt (exponent * 2 ^ 52 + significand) = significand * (2 ^ exponent / one) := by
  rw [valueAt, stepsAt_scaled high low]
  push_cast
  ring

/-- The quotient keeps 53 binary digits, or all of them if it has fewer. -/
theorem significand_bounds (quotient : Nat) :
    quotient / 2 ^ (quotient.log2 - 52) < 2 ^ 53 ∧
      (quotient.log2 - 52 ≠ 0 → 2 ^ 52 ≤ quotient / 2 ^ (quotient.log2 - 52)) := by
  constructor
  · apply Nat.div_lt_of_lt_mul
    rw [← pow_add]
    exact Nat.lt_log2_self.trans_le (Nat.pow_le_pow_right (by decide) (by omega))
  · intro long
    have positive : quotient ≠ 0 := by
      rintro rfl
      exact long rfl
    rw [Nat.le_div_iff_mul_le (by positivity), ← pow_add]
    calc 2 ^ (52 + (quotient.log2 - 52)) = 2 ^ quotient.log2 := by congr 1; omega
      _ ≤ quotient := Nat.log2_self_le positive

/-- A number between two significands of one scale is rounded to one of them. -/
theorem nearest_of_split {exponent significand kept : Nat} {rest : ℚ} {rounded : Binary64}
    (high : significand < 2 ^ 53) (low : exponent ≠ 0 → 2 ^ 52 ≤ significand) (nonneg : 0 ≤ rest)
    (choice : (2 * rest < 1 ∧ kept = significand) ∨
      (1 < 2 * rest ∧ rest < 1 ∧ kept = significand + 1) ∨
      (2 * rest = 1 ∧ kept % 2 = 0 ∧ (kept = significand ∨ kept = significand + 1)))
    (bits : rounded.bits = min (exponent * 2 ^ 52 + kept) infinityBits) :
    Nearest ((significand + rest) * (2 ^ exponent / one)) rounded := by
  have first := valueAt_scaled high.le low
  have second : valueAt (exponent * 2 ^ 52 + significand + 1) =
      ((significand : ℚ) + 1) * (2 ^ exponent / one) := by
    rw [Nat.add_assoc, valueAt_scaled high fun long => (low long).trans (Nat.le_succ _),
      Nat.cast_succ]
  obtain ⟨unit, scale, positive⟩ : ∃ unit : ℚ, 2 ^ exponent / (one : ℚ) = unit ∧ 0 < unit :=
    ⟨_, rfl, div_pos (by positivity) one_pos⟩
  obtain ⟨place, pattern⟩ : ∃ place, exponent * 2 ^ 52 + significand = place := ⟨_, rfl⟩
  rw [scale, pattern] at first second
  rw [scale]
  have lower : (significand + rest) * unit - valueAt place = rest * unit := by
    rw [first]
    ring
  have upper : valueAt (place + 1) - (significand + rest) * unit = (1 - rest) * unit := by
    rw [second]
    ring
  have reached : valueAt place ≤ (significand + rest) * unit :=
    sub_nonneg.mp (lower ▸ mul_nonneg nonneg positive.le)
  have within (small : rest ≤ 1) : (significand + rest) * unit ≤ valueAt (place + 1) :=
    sub_nonneg.mp (upper ▸ mul_nonneg (sub_nonneg.mpr small) positive.le)
  rcases Nat.lt_or_ge place infinityBits with inside | beyond
  · rcases choice with ⟨less, rfl⟩ | ⟨more, small, rfl⟩ | ⟨tie, even, same⟩
    · have nearer : rest * unit < (1 - rest) * unit :=
        mul_lt_mul_of_pos_right (by linarith only [less]) positive
      refine nearest_below place (by omega) reached (.inl ?_)
      rwa [lower, upper]
    · have nearer : (1 - rest) * unit < rest * unit :=
        mul_lt_mul_of_pos_right (by linarith only [more]) positive
      refine nearest_above place (by omega) (within small.le) (.inl ?_)
      rwa [lower, upper]
    · have midway : (significand + rest) * unit - valueAt place =
          valueAt (place + 1) - (significand + rest) * unit := by
        rw [lower, upper]
        linear_combination unit * tie
      rcases same with rfl | rfl
      · exact nearest_below place (by omega) reached (.inr ⟨midway, by omega⟩)
      · exact nearest_above place (by omega) (within (by linarith only [tie]))
          (.inr ⟨midway, by omega⟩)
  · have bits : rounded.bits = infinity.bits := bits.trans (min_eq_right (by omega))
    obtain rfl : rounded = infinity := eq_of_bits bits
    apply nearest_infinity
    rw [value_eq]
    exact (valueAt_strictMono.monotone beyond).trans reached

/-- A ratio is its quotient and the rest, both in units of the last digit that is kept. -/
theorem ratio_eq (numerator : Nat) {denominator : Nat} (positive : 0 < denominator)
    (exponent : Nat) :
    (numerator / denominator / one : ℚ) =
      ((numerator / (denominator * 2 ^ exponent) : Nat) +
        (numerator % (denominator * 2 ^ exponent) : Nat) / (denominator * 2 ^ exponent)) *
          (2 ^ exponent / one) := by
  have whole : (numerator : ℚ) =
      denominator * 2 ^ exponent * (numerator / (denominator * 2 ^ exponent) : Nat) +
        (numerator % (denominator * 2 ^ exponent) : Nat) := by
    exact_mod_cast (Nat.div_add_mod numerator (denominator * 2 ^ exponent)).symm
  have positive : (0 : ℚ) < denominator := by exact_mod_cast positive
  have one := one_pos
  rw [whole]
  field_simp

theorem nearest_ofRatio (numerator : Nat) {denominator : Nat} (positive : 0 < denominator) :
    Nearest (numerator / denominator / one) (ofRatio numerator denominator) := by
  obtain ⟨exponent, power⟩ : ∃ exponent, exponent = (numerator / denominator).log2 - 52 := ⟨_, rfl⟩
  obtain ⟨high, low⟩ := significand_bounds (numerator / denominator)
  rw [← power, Nat.div_div_eq_div_mul] at high low
  have bits : (ofRatio numerator denominator).bits =
      min (exponent * 2 ^ 52 + roundHalfEven numerator (denominator * 2 ^ exponent))
        infinityBits := by
    rw [power]
    rfl
  rw [ratio_eq numerator positive exponent]
  have divides : (0 : ℚ) < denominator * 2 ^ exponent := by positivity
  refine nearest_of_split high low (by positivity) ?_ bits
  have less : ((numerator % (denominator * 2 ^ exponent) : Nat) : ℚ) <
      denominator * 2 ^ exponent := by
    exact_mod_cast Nat.mod_lt numerator (Nat.mul_pos positive (Nat.two_pow_pos exponent))
  rw [mul_div_assoc', div_lt_one divides, one_lt_div divides, div_lt_one divides,
    div_eq_one_iff_eq divides.ne']
  have choice := roundHalfEven_cases numerator (denominator * 2 ^ exponent)
  dsimp only at choice
  rcases choice with ⟨less, same⟩ | ⟨more, same⟩ | ⟨tie, even, same⟩
  · exact .inl ⟨by exact_mod_cast less, same⟩
  · exact .inr (.inl ⟨by exact_mod_cast more, less, same⟩)
  · exact .inr (.inr ⟨by exact_mod_cast tie, even, same⟩)

theorem nearest_ofDecimal (decimal : Decimal) :
    Nearest (decimal.numerator / 10 ^ decimal.places) (ofDecimal decimal) := by
  have positive : 0 < 10 ^ decimal.places := by positivity
  have nearest := nearest_ofRatio (decimal.numerator * one) positive
  have value : ((decimal.numerator * one : Nat) / (10 ^ decimal.places : Nat) / one : ℚ) =
      decimal.numerator / 10 ^ decimal.places := by
    have one := one_pos
    push_cast
    field_simp
  rwa [value] at nearest

theorem one_eq : (one : ℚ) = 2 ^ 1074 := by
  have power : one = 2 ^ 1074 := by decide +kernel
  rw [power, Nat.cast_pow, Nat.cast_ofNat]

/-- What needs no more than 53 binary digits, and zeros behind them, belongs to the format. -/
theorem exists_value_eq {n zeros : Nat} (small : n ≤ 2 ^ 53) (few : zeros ≤ 970) :
    ∃ x : Binary64, x.value = n * 2 ^ zeros := by
  rcases Nat.eq_zero_or_pos n with rfl | positive
  · have zero : stepsAt 0 = 0 := by decide +kernel
    refine ⟨⟨0, Nat.zero_le _⟩, ?_⟩
    rw [value_eq, valueAt, zero, Nat.cast_zero, zero_div, zero_mul]
  · -- Shifted to the left, the digits fill the significand.
    obtain ⟨exponent, shift, whole, filled⟩ :
        ∃ exponent shift, exponent + shift = 1074 + zeros ∧ shift = 52 - n.log2 :=
      ⟨1074 + zeros - (52 - n.log2), 52 - n.log2, by omega, rfl⟩
    have high : n * 2 ^ shift ≤ 2 ^ 53 := by
      rcases Nat.eq_zero_or_pos shift with rfl | shifts
      · rwa [pow_zero, mul_one]
      · calc n * 2 ^ shift ≤ 2 ^ (n.log2 + 1) * 2 ^ shift :=
              Nat.mul_le_mul_right _ Nat.lt_log2_self.le
          _ = 2 ^ 53 := by
            rw [← pow_add]
            congr 1
            omega
    have low : 2 ^ 52 ≤ n * 2 ^ shift := by
      calc 2 ^ 52 ≤ 2 ^ (n.log2 + shift) := Nat.pow_le_pow_right (by decide) (by omega)
        _ = 2 ^ n.log2 * 2 ^ shift := pow_add ..
        _ ≤ n * 2 ^ shift := Nat.mul_le_mul_right _ (Nat.log2_self_le positive.ne')
    have inside : exponent * 2 ^ 52 + n * 2 ^ shift ≤ infinityBits := by
      have infinity : infinityBits = 2047 * 2 ^ 52 := rfl
      omega
    refine ⟨⟨_, inside⟩, ?_⟩
    rw [value_eq, valueAt_scaled high fun _ => low, Nat.cast_mul, Nat.cast_pow, Nat.cast_ofNat,
      one_eq, mul_assoc, mul_div_assoc', ← pow_add, Nat.add_comm shift, whole, pow_add,
      mul_div_cancel_left₀ _ (by positivity)]

end Binary64

end Clausal
