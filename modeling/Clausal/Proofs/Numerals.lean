import Clausal.Proofs.Rounding
import Clausal.SemanticUnit.Literal
import Mathlib.Data.List.TakeWhile

/-! Numbers and their exact values.

A numeral denotes a rational number. Digits alone are an integer or a float by this number. With a
point among them it is the nearest binary64 number that decides, so that the two ways to write a
number come apart where rounding makes a difference.
-/

set_option autoImplicit false

namespace Clausal

namespace Literal

/-- Digits, at least one, and at most one point. -/
def isNumeral (text : List Char) : Bool :=
  text.all (fun c => c.isDigit || c == '.') && text.any Char.isDigit && text.count '.' ≤ 1

/-- The number that a numeral denotes. -/
def exactValue (text : List Char) : ℚ :=
  let whole := text.takeWhile (· != '.')
  let fraction := (text.dropWhile (· != '.')).tail
  Nat.ofDigitChars 10 whole 0 + Nat.ofDigitChars 10 fraction 0 / 10 ^ fraction.length

/-- Whether a number is a whole one below the bound for integers. -/
def IsInteger (x : ℚ) : Prop :=
  x.den = 1 ∧ x < integerBound

instance (x : ℚ) : Decidable (IsInteger x) :=
  inferInstanceAs (Decidable (_ ∧ _))

/-- The unit of a number: an integer if it can be one, and else the float that it is rounded to. -/
def classify (x : ℚ) (rounded : Binary64) : SemanticUnit :=
  if IsInteger x then .integer x.num.toNat else .float rounded

section

variable {text whole fraction : List Char}

theorem areDigits_iff :
    Decimal.areDigits text = true ↔ text ≠ [] ∧ ∀ c ∈ text, c.isDigit = true := by
  simp [Decimal.areDigits]

theorem point_notMem_of_digits (digits : ∀ c ∈ text, c.isDigit = true) : '.' ∉ text := by
  intro member
  cases digits _ member

theorem isNumeral_iff :
    isNumeral text = true ↔ (∀ c ∈ text, c.isDigit = true ∨ c = '.') ∧
      (∃ c ∈ text, c.isDigit = true) ∧ text.count '.' ≤ 1 := by
  simp [isNumeral, and_assoc]

theorem isNumeral_iff_of_pointless (pointless : '.' ∉ text) :
    isNumeral text = true ↔ Decimal.areDigits text = true := by
  rw [areDigits_iff, isNumeral_iff]
  constructor
  · rintro ⟨plain, ⟨c, member, _⟩, _⟩
    refine ⟨List.ne_nil_of_mem member, fun d inside => ?_⟩
    rcases plain d inside with digit | rfl
    · exact digit
    · exact absurd inside pointless
  · rintro ⟨written, digits⟩
    obtain ⟨c, member⟩ := List.exists_mem_of_ne_nil _ written
    refine ⟨fun d inside => .inl (digits d inside), ⟨c, member, digits c member⟩, ?_⟩
    rw [List.count_eq_zero_of_not_mem pointless]
    exact Nat.zero_le 1

/-- Without its only point a numeral is digits. -/
theorem isNumeral_iff_of_point (first : '.' ∉ whole) :
    isNumeral (whole ++ '.' :: fraction) = true ↔
      Decimal.areDigits (whole ++ fraction) = true := by
  have plain : (whole ++ '.' :: fraction).all (fun c => c.isDigit || c == '.') =
      (whole ++ fraction).all fun c => c.isDigit || c == '.' := by
    simp [List.all_append]
  have digits : (whole ++ '.' :: fraction).any Char.isDigit =
      (whole ++ fraction).any Char.isDigit := by
    simp [List.any_append]
  have points : (whole ++ '.' :: fraction).count '.' = fraction.count '.' + 1 := by
    rw [List.count_append, List.count_eq_zero_of_not_mem first, List.count_cons_self, Nat.zero_add]
  rw [isNumeral, plain, digits, points]
  constructor
  · intro numeral
    have once : fraction.count '.' + 1 ≤ 1 := of_decide_eq_true (Bool.and_eq_true_iff.mp numeral).2
    have later : '.' ∉ fraction := List.count_eq_zero.mp (by omega)
    have absent : '.' ∉ whole ++ fraction := by simp [first, later]
    rw [← isNumeral_iff_of_pointless absent, isNumeral, (Bool.and_eq_true_iff.mp numeral).1,
      List.count_eq_zero_of_not_mem absent]
    rfl
  · intro areDigits
    have absent := point_notMem_of_digits (areDigits_iff.mp areDigits).2
    have later : '.' ∉ fraction := fun inside => absent (List.mem_append_right _ inside)
    have numeral := (isNumeral_iff_of_pointless absent).mpr areDigits
    rw [isNumeral] at numeral
    rw [(Bool.and_eq_true_iff.mp numeral).1, List.count_eq_zero_of_not_mem later]
    rfl

theorem exactValue_of_pointless (pointless : '.' ∉ text) :
    exactValue text = Nat.ofDigitChars 10 text 0 := by
  have kept : ∀ c ∈ text, (c != '.') = true := by
    intro c member
    exact bne_iff_ne.mpr fun point => pointless (point ▸ member)
  simp only [exactValue, List.takeWhile_eq_self_iff.mpr kept, List.dropWhile_eq_nil_iff.mpr kept]
  simp

theorem exactValue_of_point (first : '.' ∉ whole) :
    exactValue (whole ++ '.' :: fraction) =
      Nat.ofDigitChars 10 whole 0 + Nat.ofDigitChars 10 fraction 0 / 10 ^ fraction.length := by
  have kept : ∀ c ∈ whole, (c != '.') = true := by
    intro c member
    exact bne_iff_ne.mpr fun point => first (point ▸ member)
  simp only [exactValue, List.takeWhile_append_of_pos kept, List.dropWhile_append_of_pos kept]
  simp

/-- Reading gives the number that is denoted, or nothing if the text is no numeral. -/
theorem read?_cases (text : List Char) :
    (¬isNumeral text = true ∧ Decimal.read? text = none) ∨
    (isNumeral text = true ∧ ∃ decimal, Decimal.read? text = some decimal ∧
      (decimal.numerator / 10 ^ decimal.places : ℚ) = exactValue text ∧
      ('.' ∉ text → decimal.places = 0)) := by
  unfold Decimal.read?
  split
  · next uncut =>
    have pointless := Text.cutFirst_eq_none_iff.mp uncut
    rw [isNumeral_iff_of_pointless pointless, exactValue_of_pointless pointless]
    split
    · next digits => exact .inr ⟨digits, _, rfl, by simp, fun _ => rfl⟩
    · next other => exact .inl ⟨other, rfl⟩
  · next whole fraction cut =>
    obtain ⟨rfl, first⟩ := Text.cutFirst_eq_some cut
    rw [isNumeral_iff_of_point first, exactValue_of_point first]
    split
    · next digits =>
      refine .inr ⟨digits, _, rfl, ?_, fun pointless => absurd (by simp) pointless⟩
      rw [Nat.ofDigitChars_append, Nat.ofDigitChars_eq_ofDigitChars_zero]
      push_cast
      field_simp
    · next other => exact .inl ⟨other, rfl⟩

end

section

variable {x y : ℚ} {rounded : Binary64}

theorem isInteger_natCast {n : Nat} : IsInteger n ↔ n < integerBound := by
  rw [IsInteger, Rat.den_natCast]
  exact ⟨fun integer => by exact_mod_cast integer.2, fun less => ⟨rfl, by exact_mod_cast less⟩⟩

theorem classify_natCast {n : Nat} (less : n < integerBound) (rounded : Binary64) :
    classify n rounded = .integer n := by
  rw [classify, if_pos (isInteger_natCast.mpr less), Rat.num_natCast, Int.toNat_natCast]

theorem classify_of_not (other : ¬IsInteger x) (rounded : Binary64) :
    classify x rounded = .float rounded :=
  if_neg other

theorem IsInteger.exists_natCast (integer : IsInteger x) (nonneg : 0 ≤ x) :
    ∃ n : Nat, x = n ∧ n < integerBound := by
  have whole : x = x.num.toNat := by
    calc x = x.num := (Rat.coe_int_num_of_den_eq_one integer.1).symm
      _ = (x.num.toNat : Int) := by rw [Int.toNat_of_nonneg (Rat.num_nonneg.mpr nonneg)]
      _ = x.num.toNat := Int.cast_natCast _
  refine ⟨x.num.toNat, whole, ?_⟩
  rw [whole] at integer
  exact isInteger_natCast.mp integer

/-- Numbers are told apart only if one of them is an integer. -/
theorem classify_eq_iff (nonneg : 0 ≤ x) (nonneg' : 0 ≤ y) (rounded : Binary64) :
    classify x rounded = classify y rounded ↔ x = y ∨ (¬IsInteger x ∧ ¬IsInteger y) := by
  by_cases first : IsInteger x
  · obtain ⟨n, rfl, less⟩ := first.exists_natCast nonneg
    by_cases second : IsInteger y
    · obtain ⟨m, rfl, less'⟩ := second.exists_natCast nonneg'
      simp [classify_natCast less, classify_natCast less', first]
    · rw [classify_natCast less, classify_of_not second]
      constructor
      · nofun
      · rintro (rfl | ⟨other, _⟩)
        · exact absurd first second
        · exact absurd first other
  · by_cases second : IsInteger y
    · obtain ⟨m, rfl, less'⟩ := second.exists_natCast nonneg'
      rw [classify_natCast less', classify_of_not first]
      constructor
      · nofun
      · rintro (rfl | ⟨_, other⟩)
        · exact absurd second first
        · exact absurd second other
    · simp [classify_of_not first, classify_of_not second, first, second]

theorem exists_value_eq_integerBound : ∃ bound : Binary64, bound.value = integerBound := by
  obtain ⟨bound, value⟩ := @Binary64.exists_value_eq 1 63 (by decide) (by decide)
  refine ⟨bound, value.trans ?_⟩
  norm_num [integerBound]

theorem integerBound_le_value_of_nearest (nearest : Binary64.Nearest x rounded)
    (large : integerBound ≤ x) : integerBound ≤ rounded.value := by
  obtain ⟨bound, value⟩ := exists_value_eq_integerBound
  rw [← value] at large ⊢
  exact nearest.le_value large

/-- What rounds to a whole number below the bound is an integer. -/
theorem unit_of_rounded (rounded : Binary64) :
    (match rounded.toNat? with
      | some value => if value < integerBound then .integer value else .float rounded
      | none => .float rounded) = classify rounded.value rounded := by
  by_cases whole : rounded.steps % Binary64.one = 0
  · obtain ⟨n, steps⟩ := Nat.dvd_of_mod_eq_zero whole
    have value : rounded.value = n := by
      rw [Binary64.value, steps, Nat.cast_mul, mul_div_cancel_left₀ _ Binary64.one_pos.ne']
    cases finite : rounded.isFinite with
    | true =>
      have quotient : rounded.steps / Binary64.one = n := by
        rw [steps, Nat.mul_div_cancel_left n (by exact_mod_cast Binary64.one_pos)]
      have read : rounded.toNat? = some n := by
        simp [Binary64.toNat?, finite, whole, quotient]
      rw [read, value]
      dsimp only
      split
      · next less => rw [classify_natCast less]
      · next large => rw [classify_of_not (mt isInteger_natCast.mp large)]
    | false =>
      have read : rounded.toNat? = none := by simp [Binary64.toNat?, finite]
      -- Infinity comes after all numbers of the format, the bound included.
      have large : integerBound ≤ rounded.value := by
        obtain ⟨bound, same⟩ := exists_value_eq_integerBound
        rw [← same]
        have last : Binary64.infinityBits ≤ rounded.bits := by
          simpa [Binary64.isFinite] using finite
        exact Binary64.valueAt_strictMono.monotone (bound.le_infinity.trans last)
      rw [read, classify_of_not fun integer => absurd integer.2 (not_lt.mpr large)]
  · have read : rounded.toNat? = none := by simp [Binary64.toNat?, whole]
    rw [read, classify_of_not]
    intro integer
    obtain ⟨n, value, _⟩ := integer.exists_natCast rounded.value_nonneg
    rw [Binary64.value, div_eq_iff Binary64.one_pos.ne'] at value
    have steps : rounded.steps = n * Binary64.one := by exact_mod_cast value
    exact whole (by rw [steps, Nat.mul_mod_left])

end

section

variable {text : String} {rounded : Binary64}

theorem exactValue_nonneg (text : List Char) : 0 ≤ exactValue text :=
  add_nonneg (Nat.cast_nonneg _) (div_nonneg (Nat.cast_nonneg _) (by positivity))

theorem number?_eq_none_iff : number? text = none ↔ isNumeral text.toList = false := by
  rcases read?_cases text.toList with ⟨other, unread⟩ | ⟨numeral, decimal, read, _⟩
  · simp [number?, unread, other]
  · simp [number?, read, numeral]

theorem number?_of_read {decimal : Decimal} (read : Decimal.read? text.toList = some decimal)
    (rounds : ¬('.' ∉ text.toList ∧ decimal.numerator < integerBound)) :
    number? text = some (classify (Binary64.ofDecimal decimal).value (.ofDecimal decimal)) := by
  rw [number?, read, Option.map_some, if_neg rounds]
  exact congrArg some (unit_of_rounded _)

theorem exists_nearest (numeral : isNumeral text.toList = true) :
    ∃ rounded, Binary64.Nearest (exactValue text.toList) rounded := by
  rcases read?_cases text.toList with ⟨other, _⟩ | ⟨_, decimal, _, value, _⟩
  · exact absurd numeral other
  · exact ⟨.ofDecimal decimal, value ▸ Binary64.nearest_ofDecimal decimal⟩

/-- Behind a point the number is what it is rounded to. -/
theorem number?_of_point (numeral : isNumeral text.toList = true) (point : '.' ∈ text.toList)
    (nearest : Binary64.Nearest (exactValue text.toList) rounded) :
    number? text = some (classify rounded.value rounded) := by
  rcases read?_cases text.toList with ⟨other, _⟩ | ⟨_, decimal, read, value, _⟩
  · exact absurd numeral other
  · obtain rfl := nearest.unique (value ▸ Binary64.nearest_ofDecimal decimal)
    exact number?_of_read read fun exact => exact.1 point

theorem number?_of_pointless (numeral : isNumeral text.toList = true)
    (pointless : '.' ∉ text.toList)
    (nearest : Binary64.Nearest (exactValue text.toList) rounded) :
    number? text = some (classify (exactValue text.toList) rounded) := by
  rcases read?_cases text.toList with ⟨other, _⟩ | ⟨_, decimal, read, value, places⟩
  · exact absurd numeral other
  · obtain rfl := nearest.unique (value ▸ Binary64.nearest_ofDecimal decimal)
    rw [places pointless, pow_zero, div_one] at value
    rw [← value]
    by_cases less : decimal.numerator < integerBound
    · rw [number?, read, Option.map_some, if_pos ⟨pointless, less⟩, classify_natCast less]
    · -- Rounding does not bring the number below the bound.
      have large : (integerBound : ℚ) ≤ decimal.numerator := by exact_mod_cast not_lt.mp less
      have rounded := integerBound_le_value_of_nearest nearest (value ▸ large)
      rw [number?_of_read read fun exact => less exact.2,
        classify_of_not fun integer => absurd integer.2 (not_lt.mpr rounded),
        classify_of_not (mt isInteger_natCast.mp less)]

end

/-- With as many zeros behind a point as one likes, digits denote the same number. -/
theorem exactValue_append_zeros {text : List Char} (pointless : '.' ∉ text) (zeros : Nat) :
    exactValue (text ++ '.' :: List.replicate zeros '0') = exactValue text := by
  rw [exactValue_of_point pointless, exactValue_of_pointless pointless,
    Nat.ofDigitChars_replicate_zero]
  simp

theorem isNumeral_append_zeros {text : List Char} (numeral : isNumeral text = true)
    (pointless : '.' ∉ text) (zeros : Nat) :
    isNumeral (text ++ '.' :: List.replicate zeros '0') = true := by
  obtain ⟨written, digits⟩ := areDigits_iff.mp ((isNumeral_iff_of_pointless pointless).mp numeral)
  rw [isNumeral_iff_of_point pointless, areDigits_iff, List.forall_mem_append]
  refine ⟨by simp [written], digits, fun c zero => ?_⟩
  rw [List.eq_of_mem_replicate zero]
  rfl

section

variable {text : String} {rounded : Binary64} (numeral : isNumeral text.toList = true)
  (nearest : Binary64.Nearest (exactValue text.toList) rounded)

include numeral nearest

theorem number?_eq_exact_iff :
    number? text = some (classify (exactValue text.toList) rounded) ↔
      '.' ∉ text.toList ∨ rounded.value = exactValue text.toList ∨
        (¬IsInteger rounded.value ∧ ¬IsInteger (exactValue text.toList)) := by
  by_cases point : '.' ∈ text.toList
  · rw [number?_of_point numeral point nearest, Option.some.injEq,
      classify_eq_iff rounded.value_nonneg (exactValue_nonneg _)]
    simp [point]
  · simp [number?_of_pointless numeral point nearest, point]

/-- Whole numbers of at most 53 binary digits are not changed by rounding. -/
theorem number?_of_small {n : Nat} (small : n ≤ 2 ^ 53) (value : exactValue text.toList = n) :
    number? text = some (.integer n) := by
  obtain ⟨exact, same⟩ := @Binary64.exists_value_eq n 0 small (by decide)
  rw [pow_zero, mul_one, ← value] at same
  have kept : rounded.value = exactValue text.toList := nearest.value_eq_of_exact same
  have less : n < integerBound := small.trans_lt (by decide)
  rw [(number?_eq_exact_iff numeral nearest).mpr (.inr (.inl kept)), value, classify_natCast less]

theorem number?_append_zeros_iff (pointless : '.' ∉ text.toList) (zeros : Nat) :
    number? (text ++ "." ++ String.ofList (List.replicate zeros '0')) = number? text ↔
      rounded.value = exactValue text.toList ∨ integerBound ≤ exactValue text.toList := by
  have letters : (text ++ "." ++ String.ofList (List.replicate zeros '0')).toList =
      text.toList ++ '.' :: List.replicate zeros '0' := by
    simp
  have nearest' := nearest
  rw [← exactValue_append_zeros pointless zeros, ← letters] at nearest'
  have written : number? (text ++ "." ++ String.ofList (List.replicate zeros '0')) =
      some (classify rounded.value rounded) :=
    number?_of_point (letters ▸ isNumeral_append_zeros numeral pointless zeros)
      (by simp [letters]) nearest'
  rw [written, number?_of_pointless numeral pointless nearest, Option.some.injEq,
    classify_eq_iff rounded.value_nonneg (exactValue_nonneg _)]
  apply or_congr_right
  constructor
  · rintro ⟨_, other⟩
    rw [exactValue_of_pointless pointless] at other ⊢
    exact_mod_cast not_lt.mp (mt isInteger_natCast.mpr other)
  · intro large
    have above := integerBound_le_value_of_nearest nearest large
    exact ⟨fun integer => absurd integer.2 (not_lt.mpr above),
      fun integer => absurd integer.2 (not_lt.mpr large)⟩

end

/-- Exactly the numerals are numbers. By its exact value a number is an integer or a float if it is
written without a point, and by the binary64 number nearest to that value if it is written with one.
Both come to the same if rounding changes nothing, which is so for whole numbers up to `2 ^ 53`, or
if it makes no integer and spoils none. -/
theorem numbers_told_by_rounding (text : String) :
    (number? text = none ↔ isNumeral text.toList = false) ∧
    (isNumeral text.toList = true → ∃ rounded : Binary64,
      (∀ other, Binary64.Nearest (exactValue text.toList) other ↔ other = rounded) ∧
      ('.' ∉ text.toList → number? text = some (classify (exactValue text.toList) rounded)) ∧
      ('.' ∈ text.toList → number? text = some (classify rounded.value rounded)) ∧
      (number? text = some (classify (exactValue text.toList) rounded) ↔
        '.' ∉ text.toList ∨ rounded.value = exactValue text.toList ∨
          (¬IsInteger rounded.value ∧ ¬IsInteger (exactValue text.toList))) ∧
      (∀ n : Nat, n ≤ 2 ^ 53 → exactValue text.toList = n → number? text = some (.integer n)) ∧
      ('.' ∉ text.toList → ∀ zeros : Nat,
        (number? (text ++ "." ++ String.ofList (List.replicate zeros '0')) = number? text ↔
          rounded.value = exactValue text.toList ∨ integerBound ≤ exactValue text.toList))) := by
  refine ⟨number?_eq_none_iff, fun numeral => ?_⟩
  obtain ⟨rounded, nearest⟩ := exists_nearest numeral
  exact ⟨rounded, fun other => ⟨fun also => also.unique nearest, fun same => same ▸ nearest⟩,
    fun pointless => number?_of_pointless numeral pointless nearest,
    fun point => number?_of_point numeral point nearest, number?_eq_exact_iff numeral nearest,
    fun n => number?_of_small numeral nearest, number?_append_zeros_iff numeral nearest⟩

/-- A whole number with a zero behind the point is an integer. -/
theorem whole_number_told :
    isNumeral "5.0".toList = true ∧ exactValue "5.0".toList = 5 ∧
      number? "5.0" = some (.integer 5) := by
  have numeral : isNumeral "5.0".toList = true := by decide
  have value : exactValue "5.0".toList = (5 : Nat) := by decide +kernel
  obtain ⟨rounded, _, _, _, _, small, _⟩ := (numbers_told_by_rounding "5.0").2 numeral
  exact ⟨numeral, value, small 5 (by decide) value⟩

/-- Beyond `2 ^ 53` rounding can change a whole number, make one of a fraction, and reach the
bound. -/
theorem rounding_changes_numbers :
    exactValue "9007199254740993.0".toList = 9007199254740993 ∧
    number? "9007199254740993.0" = some (.integer 9007199254740992) ∧
    number? "9007199254740993" = some (.integer 9007199254740993) ∧
    number? "0.99999999999999999999" = some (.integer 1) ∧
    number? "9223372036854775807" = some (.integer 9223372036854775807) ∧
    number? "9223372036854775807.0" = some (.float ⟨1086 * Nat.pow 2 52, by decide⟩) := by
  decide +kernel

end Literal

end Clausal
