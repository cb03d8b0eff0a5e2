import Clausal.Proofs.Numerals

/-! Numbers that are shown read back.

What is shown of a number is a numeral of the same value, and the shortest decimal of a float is one
that is rounded to it. Behind a point this is all that counts. Without one the digits could be taken
for an integer instead, but a float without a fraction is not below the bound, and neither are its
digits.
-/

set_option autoImplicit false

namespace Clausal

theorem Text.exists_trailing (c : Char) (text : List Char) :
    ∃ count, text = (text.reverse.dropWhile (· == c)).reverse ++ List.replicate count c := by
  have trailing : text.reverse.takeWhile (· == c) =
      List.replicate (text.reverse.takeWhile (· == c)).length c := by
    apply List.eq_replicate_of_mem
    intro d member
    simpa using List.mem_takeWhile_imp member
  refine ⟨(text.reverse.takeWhile (· == c)).length, ?_⟩
  rw [← List.reverse_replicate, ← trailing, ← List.reverse_append,
    List.takeWhile_append_dropWhile, List.reverse_reverse]

namespace Decimal

/-- The digits of the fractional part, with the zeros that end it. -/
def paddedDigits (decimal : Decimal) : List Char :=
  let digits := Nat.toDigits 10 (decimal.numerator % 10 ^ decimal.places)
  List.replicate (decimal.places - digits.length) '0' ++ digits

variable {decimal : Decimal}

theorem isDigit_of_mem_paddedDigits {c : Char} (member : c ∈ decimal.paddedDigits) :
    c.isDigit = true := by
  rcases List.mem_append.mp member with zero | digit
  · rw [List.eq_of_mem_replicate zero]
    rfl
  · exact Nat.isDigit_of_mem_toDigits (by decide) (by decide) digit

theorem ofDigitChars_paddedDigits (decimal : Decimal) :
    Nat.ofDigitChars 10 decimal.paddedDigits 0 = decimal.numerator % 10 ^ decimal.places := by
  rw [paddedDigits, Nat.ofDigitChars_append, Nat.ofDigitChars_replicate_zero, Nat.mul_zero,
    Nat.ofDigitChars_ten_toDigits]

theorem length_paddedDigits (fractional : decimal.numerator % 10 ^ decimal.places ≠ 0) :
    decimal.paddedDigits.length = decimal.places := by
  have positive : 0 < decimal.places := by
    rw [Nat.pos_iff_ne_zero]
    rintro whole
    exact fractional (by rw [whole, pow_zero, Nat.mod_one])
  have fits := (Nat.length_toDigits_le_iff (by decide) positive).mpr
    (Nat.mod_lt decimal.numerator (show 0 < 10 ^ decimal.places by positivity))
  rw [paddedDigits, List.length_append, List.length_replicate]
  omega

/-- Without the zeros at its end the fraction keeps its value. -/
theorem exists_zeros (decimal : Decimal) :
    ∃ zeros, decimal.paddedDigits = decimal.fractionDigits ++ List.replicate zeros '0' :=
  Text.exists_trailing '0' decimal.paddedDigits

theorem fraction_eq (fractional : decimal.numerator % 10 ^ decimal.places ≠ 0) :
    (Nat.ofDigitChars 10 decimal.fractionDigits 0 / 10 ^ decimal.fractionDigits.length : ℚ) =
      (decimal.numerator % 10 ^ decimal.places : Nat) / 10 ^ decimal.places := by
  obtain ⟨zeros, padded⟩ := decimal.exists_zeros
  have value := ofDigitChars_paddedDigits decimal
  have places := length_paddedDigits fractional
  rw [padded, Nat.ofDigitChars_append, Nat.ofDigitChars_replicate_zero] at value
  rw [padded, List.length_append, List.length_replicate] at places
  rw [← value, ← places, pow_add]
  push_cast
  field_simp

theorem render_of_whole (whole : decimal.numerator % 10 ^ decimal.places = 0) :
    decimal.render = Nat.toDigits 10 (decimal.numerator / 10 ^ decimal.places) :=
  if_pos whole

theorem render_of_fractional (fractional : decimal.numerator % 10 ^ decimal.places ≠ 0) :
    decimal.render = Nat.toDigits 10 (decimal.numerator / 10 ^ decimal.places) ++
      '.' :: decimal.fractionDigits :=
  if_neg fractional

end Decimal

namespace Literal

theorem areDigits_toDigits (n : Nat) : Decimal.areDigits (Nat.toDigits 10 n) = true :=
  areDigits_iff.mpr ⟨Nat.toDigits_ne_nil, fun _ member =>
    Nat.isDigit_of_mem_toDigits (by decide) (by decide) member⟩

theorem point_notMem_toDigits (n : Nat) : '.' ∉ Nat.toDigits 10 n :=
  point_notMem_of_digits (areDigits_iff.mp (areDigits_toDigits n)).2

variable {decimal : Decimal}

theorem isNumeral_render (decimal : Decimal) : isNumeral decimal.render = true := by
  by_cases whole : decimal.numerator % 10 ^ decimal.places = 0
  · rw [Decimal.render_of_whole whole, isNumeral_iff_of_pointless (point_notMem_toDigits _)]
    exact areDigits_toDigits _
  · obtain ⟨zeros, padded⟩ := decimal.exists_zeros
    rw [Decimal.render_of_fractional whole, isNumeral_iff_of_point (point_notMem_toDigits _),
      areDigits_iff, List.forall_mem_append]
    refine ⟨by simp [Nat.toDigits_ne_nil], (areDigits_iff.mp (areDigits_toDigits _)).2, ?_⟩
    intro c member
    exact Decimal.isDigit_of_mem_paddedDigits (padded ▸ List.mem_append_left _ member)

theorem exactValue_render (decimal : Decimal) :
    exactValue decimal.render = decimal.numerator / 10 ^ decimal.places := by
  have split : (decimal.numerator : ℚ) = 10 ^ decimal.places *
      (decimal.numerator / 10 ^ decimal.places : Nat) +
        (decimal.numerator % 10 ^ decimal.places : Nat) := by
    exact_mod_cast (Nat.div_add_mod decimal.numerator (10 ^ decimal.places)).symm
  by_cases whole : decimal.numerator % 10 ^ decimal.places = 0
  · rw [Decimal.render_of_whole whole, exactValue_of_pointless (point_notMem_toDigits _),
      Nat.ofDigitChars_ten_toDigits, split, whole, Nat.cast_zero, add_zero]
    field_simp
  · rw [Decimal.render_of_fractional whole, exactValue_of_point (point_notMem_toDigits _),
      Nat.ofDigitChars_ten_toDigits, Decimal.fraction_eq whole, split]
    field_simp

/-- What is shown without a point is a whole number. -/
theorem exactValue_render_of_pointless (pointless : '.' ∉ decimal.render) :
    ∃ n : Nat, exactValue decimal.render = n :=
  ⟨_, exactValue_of_pointless pointless⟩

end Literal

namespace Binary64

variable {x : Binary64}

theorem ofDecimal_eq {decimal : Decimal}
    (value : (decimal.numerator / 10 ^ decimal.places : ℚ) = x.value) : ofDecimal decimal = x :=
  (value ▸ nearest_ofDecimal decimal).unique (.refl x)

theorem ofDecimal_toDecimal (x : Binary64) : ofDecimal x.toDecimal = x := by
  have ten : (10 : ℚ) = 2 * 5 := by norm_num
  apply ofDecimal_eq
  unfold toDecimal value one
  dsimp only
  -- The number of places plays no part, and its powers are better left alone.
  generalize 1074 = places
  rw [ten, mul_pow, Nat.pow_eq, Nat.pow_eq]
  push_cast
  field_simp

theorem ofDecimal_of_closestOnGrid? {exact decimal : Decimal} {step : Nat}
    (closest : x.closestOnGrid? exact step = some decimal) : ofDecimal decimal = x := by
  unfold closestOnGrid? at closest
  dsimp only at closest
  split at closest
  · next both =>
    split at closest <;> cases closest
    · exact both.1
    · exact both.2
  · split at closest
    · next below =>
      cases closest
      exact below
    · split at closest
      · next above =>
        cases closest
        exact above
      · cases closest

/-- The shortest decimal is rounded to the number that it is shown for. -/
theorem ofDecimal_shortest (x : Binary64) : ofDecimal x.shortest = x := by
  unfold shortest
  dsimp only
  cases found : (List.range 17).findSome? fun digits =>
      x.closestOnGrid? x.toDecimal
        (Nat.pow 10 ((Nat.toDigits 10 x.toDecimal.numerator).length - (digits + 1))) with
  | none => exact x.ofDecimal_toDecimal
  | some decimal =>
    obtain ⟨digits, _, closest⟩ := List.exists_of_findSome?_eq_some found
    exact ofDecimal_of_closestOnGrid? closest

/-- From `2 ^ 53` on there are no fractions. -/
theorem exists_natCast_of_large (large : 2 ^ 53 ≤ x.value) : ∃ n : Nat, x.value = n := by
  obtain ⟨exponent, significand, bits, high, low⟩ := exists_scaled x.bits
  have value : x.value = significand * (2 ^ exponent / one) := by
    rw [value_eq, bits, valueAt_scaled high.le low]
  have long : 1074 ≤ exponent := by
    by_contra short
    have scale : (2 ^ exponent / one : ℚ) ≤ 1 := by
      rw [div_le_one one_pos, one_eq]
      exact pow_le_pow_right₀ one_le_two (by omega)
    have small : (significand : ℚ) < 2 ^ 53 := by exact_mod_cast high
    have less : x.value ≤ significand * 1 :=
      value ▸ mul_le_mul_of_nonneg_left scale (Nat.cast_nonneg _)
    linarith
  obtain ⟨zeros, rfl⟩ := Nat.exists_eq_add_of_le long
  refine ⟨significand * 2 ^ zeros, ?_⟩
  rw [value, one_eq, pow_add, mul_div_cancel_left₀ _ (by positivity), Nat.cast_mul, Nat.cast_pow,
    Nat.cast_ofNat]

end Binary64

namespace Literal

variable {text : String} {unit : SemanticUnit} {x : Binary64}

/-- The pattern of the first float that could be taken for an integer. -/
def boundPattern : Binary64 :=
  ⟨1086 * Nat.pow 2 52, by decide⟩

theorem value_boundPattern : boundPattern.value = integerBound := by
  have steps : boundPattern.steps = integerBound * Binary64.one := by decide +kernel
  rw [Binary64.value, steps, Nat.cast_mul, mul_div_cancel_right₀ _ Binary64.one_pos.ne']

/-- The digits of the bound are shown rounded up. -/
theorem integerBound_le_shortest : integerBound * 10 ^ boundPattern.shortest.places ≤
    boundPattern.shortest.numerator := by
  decide +kernel

theorem nearest_render_shortest (x : Binary64) :
    Binary64.Nearest (exactValue x.shortest.render) x := by
  have nearest := Binary64.nearest_ofDecimal x.shortest
  rwa [x.ofDecimal_shortest, ← exactValue_render] at nearest

/-- Only the bound is a float that is no integer and that a lesser whole number is rounded to. -/
theorem eq_boundPattern {n : Nat} (less : n < integerBound) (nearest : Binary64.Nearest n x)
    (other : ¬IsInteger x.value) : x = boundPattern := by
  rcases Nat.le_total n (2 ^ 53) with small | large
  · obtain ⟨exact, same⟩ := @Binary64.exists_value_eq n 0 small (by decide)
    rw [pow_zero, mul_one] at same
    rw [nearest.value_eq_of_exact same, isInteger_natCast] at other
    exact absurd less other
  · -- A float that great is whole, so it is at least the bound, and rounding goes no further.
    obtain ⟨power, same⟩ := @Binary64.exists_value_eq 1 53 (by decide) (by decide)
    rw [Nat.cast_one, one_mul] at same
    have reached : power.value ≤ n := by
      rw [same]
      exact_mod_cast large
    obtain ⟨m, whole⟩ := Binary64.exists_natCast_of_large (same ▸ nearest.le_value reached)
    have below : x.value ≤ boundPattern.value :=
      nearest.value_le (value_boundPattern ▸ by exact_mod_cast less.le)
    apply Binary64.eq_of_value
    rw [whole, isInteger_natCast] at other
    rw [value_boundPattern, whole] at below ⊢
    exact below.antisymm (by exact_mod_cast not_lt.mp other)

/-- A float that is no integer is not shown as one. -/
theorem not_isInteger_render_shortest (other : ¬IsInteger x.value)
    (pointless : '.' ∉ x.shortest.render) : ¬IsInteger (exactValue x.shortest.render) := by
  have nearest := nearest_render_shortest x
  obtain ⟨n, value⟩ := exactValue_render_of_pointless pointless
  rw [value] at nearest ⊢
  rw [isInteger_natCast]
  intro less
  obtain rfl := eq_boundPattern less nearest other
  rw [exactValue_render, div_eq_iff (by positivity)] at value
  have shown : boundPattern.shortest.numerator = n * 10 ^ boundPattern.shortest.places := by
    exact_mod_cast value
  have least := shown ▸ integerBound_le_shortest
  exact absurd less (not_lt.mpr (Nat.le_of_mul_le_mul_right least (by positivity)))

theorem number?_render_shortest (other : ¬IsInteger x.value) :
    number? (String.ofList x.shortest.render) = some (.float x) := by
  have letters : (String.ofList x.shortest.render).toList = x.shortest.render :=
    String.toList_ofList
  have numeral := isNumeral_render x.shortest
  have nearest := nearest_render_shortest x
  rw [← letters] at numeral nearest
  by_cases point : '.' ∈ (String.ofList x.shortest.render).toList
  · rw [number?_of_point numeral point nearest, classify_of_not other]
  · rw [number?_of_pointless numeral point nearest, classify_of_not]
    rw [letters] at point ⊢
    exact not_isInteger_render_shortest other point

theorem number?_toString {n : Nat} (less : n < integerBound) :
    number? (toString n) = some (.integer n) := by
  have letters : (toString n).toList = Nat.toDigits 10 n := by
    rw [Nat.toString_eq_ofList_toDigits, String.toList_ofList]
  have pointless : '.' ∉ (toString n).toList := letters ▸ point_notMem_toDigits n
  have numeral : isNumeral (toString n).toList = true := by
    rw [letters, isNumeral_iff_of_pointless (point_notMem_toDigits n)]
    exact areDigits_toDigits n
  obtain ⟨rounded, nearest⟩ := exists_nearest numeral
  rw [number?_of_pointless numeral pointless nearest, exactValue_of_pointless pointless, letters,
    Nat.ofDigitChars_ten_toDigits, classify_natCast less]

theorem number?_eq_some (read : number? text = some unit) :
    (∃ value, unit = .integer value ∧ value < integerBound) ∨
      ∃ x : Binary64, unit = .float x ∧ ¬IsInteger x.value := by
  rcases read?_cases text.toList with ⟨_, unread⟩ | ⟨_, decimal, found, _⟩
  · simp [number?, unread] at read
  by_cases exact : '.' ∉ text.toList ∧ decimal.numerator < integerBound
  · rw [number?, found, Option.map_some, if_pos exact] at read
    cases read
    exact .inl ⟨_, rfl, exact.2⟩
  · rw [number?_of_read found exact] at read
    cases read
    by_cases integer : IsInteger (Binary64.ofDecimal decimal).value
    · obtain ⟨n, value, less⟩ := integer.exists_natCast (Binary64.value_nonneg _)
      rw [value, classify_natCast less]
      exact .inl ⟨n, rfl, less⟩
    · exact .inr ⟨_, classify_of_not integer _, integer⟩

/-- A number that is no infinite float is shown by digits that are read as the same number again. -/
theorem printed_numbers_read_back (read : number? text = some unit)
    (finite : unit ≠ .float .infinity) :
    (∃ value : Nat, unit = .integer value ∧ value < integerBound ∧
      unit.render = "integer " ++ toString value ∧ number? (toString value) = some unit) ∨
    ∃ x : Binary64, unit = .float x ∧ x.isFinite = true ∧ 0 ≤ x.value ∧
      unit.render = "float " ++ x.render ∧ number? x.render = some unit := by
  rcases number?_eq_some read with ⟨value, rfl, less⟩ | ⟨x, rfl, other⟩
  · exact .inl ⟨value, rfl, less, rfl, number?_toString less⟩
  · have below : x.isFinite = true := by
      rw [Binary64.isFinite, decide_eq_true_eq]
      exact Binary64.bits_lt_infinity fun same => finite (congrArg SemanticUnit.float same)
    refine .inr ⟨x, rfl, below, x.value_nonneg, rfl, ?_⟩
    rw [Binary64.render, if_pos below]
    exact number?_render_shortest other

/-- The least float that is too great for an integer is shown without a point. -/
theorem bound_reads_back :
    number? "9223372036854775808" = some (.float boundPattern) ∧
      SemanticUnit.float boundPattern ≠ .float .infinity ∧
      boundPattern.render = "9223372036854776000" ∧
      number? "9223372036854776000" = some (.float boundPattern) := by
  have read : number? "9223372036854775808" = some (.float boundPattern) := by decide +kernel
  have finite : SemanticUnit.float boundPattern ≠ .float .infinity := by decide +kernel
  have shown : boundPattern.render = "9223372036854776000" := by decide +kernel
  rcases printed_numbers_read_back read finite with ⟨_, integer, _⟩ | ⟨x, float, _, _, _, again⟩
  · cases integer
  · cases float
    exact ⟨read, finite, shown, shown ▸ again⟩

end Literal

end Clausal
