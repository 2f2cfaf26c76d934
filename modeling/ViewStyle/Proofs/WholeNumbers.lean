import ViewStyle.Binary64.Rounding

/-!
# Whole numbers

Up to `2 ^ 53` every integer is a double: rounding it to the nearest one loses nothing, and its
integer part is the integer itself. The integer part of any number is fixed by three facts, said
here on the exact distance from zero; by them it is said what colours and spacings are read from
numbers.
-/

set_option autoImplicit false

namespace ViewStyle

namespace Binary64

/-- An integer is the integer part of a number when it is no farther from zero, by less than one,
and lies on the same side. A NaN counts as zero. -/
structure TruncatesTo (x : Binary64) (n : Int) : Prop where
  nan : x.isNaN = true → n = 0
  near : x.isNaN = false →
    n.natAbs * stepsPerUnit ≤ x.steps ∧ x.steps < (n.natAbs + 1) * stepsPerUnit
  side : n ≠ 0 → (n < 0 ↔ x.signBit = true)

theorem truncate_of_isNaN {x : Binary64} (isNaN : x.isNaN = true) : x.truncate = 0 := by
  simp [truncate, isNaN]

theorem truncate_eq {x : Binary64} (isNumber : x.isNaN = false) :
    x.truncate = if x.signBit then -((x.steps / stepsPerUnit : Nat) : Int)
      else ((x.steps / stepsPerUnit : Nat) : Int) := by
  simp only [truncate, isNumber, Bool.false_eq_true, if_false]

theorem truncatesTo_truncate (x : Binary64) : x.TruncatesTo x.truncate where
  nan := truncate_of_isNaN
  near := by
    intro isNumber
    have size : x.truncate.natAbs = x.steps / stepsPerUnit := by
      rw [truncate_eq isNumber]
      generalize x.steps / stepsPerUnit = size
      split <;> omega
    have unit : 0 < stepsPerUnit := by decide
    rw [size]
    exact ⟨Nat.div_mul_le_self _ _, Nat.lt_mul_of_div_lt (Nat.lt_succ_self _) unit⟩
  side := by
    intro notZero
    cases isNaN : x.isNaN with
    | true => exact absurd (truncate_of_isNaN isNaN) notZero
    | false =>
        rw [truncate_eq isNaN] at notZero ⊢
        generalize x.steps / stepsPerUnit = size at notZero ⊢
        cases x.signBit with
        | true =>
            simp only [if_true] at notZero ⊢
            exact iff_of_true (by omega) trivial
        | false =>
            simp only [Bool.false_eq_true, if_false] at notZero ⊢
            exact iff_of_false (by omega) id

theorem TruncatesTo.eq_truncate {x : Binary64} {n : Int} (truncates : x.TruncatesTo n) :
    n = x.truncate := by
  cases isNaN : x.isNaN with
  | true => rw [truncates.nan isNaN, truncate_of_isNaN isNaN]
  | false =>
      obtain ⟨below, above⟩ := truncates.near isNaN
      have size : x.steps / stepsPerUnit = n.natAbs := Nat.div_eq_of_lt_le below above
      rw [truncate_eq isNaN, size]
      split
      · next negative =>
          have side : n ≠ 0 → n < 0 := fun notZero => (truncates.side notZero).mpr negative
          omega
      · next positive =>
          have side : n ≠ 0 → ¬n < 0 := fun notZero below =>
            positive ((truncates.side notZero).mp below)
          omega

theorem exists_truncatesTo (x : Binary64) :
    ∃ n, x.TruncatesTo n ∧ ∀ other, x.TruncatesTo other → other = n :=
  ⟨x.truncate, x.truncatesTo_truncate, fun _ truncates => truncates.eq_truncate⟩

section Rounding

theorem roundHalfEven_of_exact (quotient : Nat) {denominator : Nat} (positive : 0 < denominator) :
    roundHalfEven (quotient * denominator) denominator = quotient := by
  have exactly : quotient * denominator / denominator = quotient :=
    Nat.mul_div_cancel quotient positive
  simp [roundHalfEven, exactly, positive]

theorem log2_shiftLeft {significand : Nat} (shift : Nat) (normal : 1 <<< 52 ≤ significand)
    (narrow : significand < 1 <<< 53) : (significand <<< shift).log2 = 52 + shift := by
  have power : 0 < Nat.pow 2 shift := Nat.two_pow_pos shift
  have lead : 0 < significand := Nat.lt_of_lt_of_le (by decide) normal
  have next : 52 + shift + 1 = 53 + shift := by omega
  rw [Nat.shiftLeft_eq]
  have notZero : significand * Nat.pow 2 shift ≠ 0 :=
    Nat.pos_iff_ne_zero.mp (Nat.mul_pos lead power)
  refine (Nat.log2_eq_iff notZero).mpr ⟨?_, ?_⟩
  · rw [Nat.pow_add]
    exact Nat.mul_le_mul_right _ normal
  · rw [next, Nat.pow_add]
    exact Nat.mul_lt_mul_of_pos_right narrow power

/-- A ratio of at most 53 significant bits is kept as it is. -/
theorem nearestMagnitude_of_exact {numerator significand shift : Nat}
    (counted : numerator * stepsPerUnit = significand <<< shift)
    (normal : 1 <<< 52 ≤ significand) (narrow : significand < 1 <<< 53) (small : shift < 2046) :
    nearestMagnitude numerator 1 = shift <<< 52 + significand := by
  have surplus : (significand <<< shift).log2 - 52 = shift := by
    rw [log2_shiftLeft shift normal narrow]
    omega
  have rounded : roundHalfEven (significand <<< shift) (1 <<< shift) = significand := by
    rw [Nat.shiftLeft_eq, Nat.one_shiftLeft]
    exact roundHalfEven_of_exact significand (Nat.two_pow_pos shift)
  have bounded : shift <<< 52 + significand ≤ infiniteMagnitude := by
    rw [Nat.shiftLeft_eq] at narrow ⊢
    rw [infiniteMagnitude]
    omega
  simp only [nearestMagnitude, counted, Nat.div_one, surplus, rounded]
  exact Nat.min_eq_right bounded

/-- Up to `2 ^ 53` an integer needs no more than 53 significant bits. -/
theorem exists_significand {n : Nat} (positive : 0 < n) (small : n ≤ 1 <<< 53) :
    ∃ significand shift, n * stepsPerUnit = significand <<< shift ∧
      1 <<< 52 ≤ significand ∧ significand < 1 <<< 53 ∧ shift < 2046 := by
  -- The top has 54 bits, of which all but the first are zero; any other needs 53 at most.
  by_cases isTop : n = 1 <<< 53
  · subst isTop
    exact ⟨1 <<< 52, 1075, by decide, by decide, by decide, by decide⟩
  · have notZero : n ≠ 0 := Nat.pos_iff_ne_zero.mp positive
    have fits : n.log2 < 53 := (Nat.log2_lt notZero).mpr (Nat.lt_of_le_of_ne small isTop)
    obtain ⟨low, high⟩ := (Nat.log2_eq_iff notZero).mp (rfl : n.log2 = n.log2)
    generalize n.log2 = log at fits low high
    have power : 0 < Nat.pow 2 (52 - log) := Nat.two_pow_pos _
    have scaled : ∀ e m, e + (52 - log) = m → 1 <<< m = Nat.pow 2 e * Nat.pow 2 (52 - log) := by
      rintro e m rfl
      rw [Nat.one_shiftLeft]
      exact Nat.pow_add 2 e (52 - log)
    refine ⟨n <<< (52 - log), 1022 + log, ?_, ?_, ?_, by omega⟩
    · have whole : 52 - log + (1022 + log) = 1074 := by omega
      rw [← Nat.shiftLeft_add, whole, stepsPerUnit, Nat.one_shiftLeft, Nat.shiftLeft_eq]
    · rw [scaled log 52 (by omega), Nat.shiftLeft_eq]
      exact Nat.mul_le_mul_right _ low
    · rw [scaled (log + 1) 53 (by omega), Nat.shiftLeft_eq]
      exact Nat.mul_lt_mul_of_pos_right high power

end Rounding

theorem steps_of_magnitude {x : Binary64} {significand shift : Nat}
    (fields : x.magnitude = shift <<< 52 + significand) (normal : 1 <<< 52 ≤ significand)
    (narrow : significand < 1 <<< 53) : x.steps = significand <<< shift := by
  have lead : (1 : Nat) <<< 52 = 4503599627370496 := by decide
  have next : (1 : Nat) <<< 53 = 9007199254740992 := by decide
  have exponent : x.exponentField = shift + 1 := by
    rw [exponentField, fields, Nat.shiftRight_eq_div_pow, Nat.shiftLeft_eq]
    omega
  have fraction : x.fractionField = significand - 1 <<< 52 := by
    rw [fractionField, fields, Nat.shiftLeft_eq, lead]
    omega
  have restored : 1 <<< 52 + (significand - 1 <<< 52) = significand := by omega
  rw [steps, exponent, fraction, if_neg (Nat.succ_ne_zero shift), restored, Nat.add_sub_cancel]

theorem signBit_ofMagnitude (negative : Bool) {magnitude : Nat} (small : magnitude < 1 <<< 63) :
    (ofMagnitude negative magnitude).signBit = negative := by
  have sign : (1 : Nat) <<< 63 = 9223372036854775808 := by decide
  cases negative <;> simp [signBit, ofMagnitude, sign] <;> omega

theorem magnitude_ofMagnitude (negative : Bool) {magnitude : Nat} (small : magnitude < 1 <<< 63) :
    (ofMagnitude negative magnitude).magnitude = magnitude := by
  have sign : (1 : Nat) <<< 63 = 9223372036854775808 := by decide
  cases negative <;> simp [Binary64.magnitude, ofMagnitude, sign] <;> omega

/-- The double of an integer up to `2 ^ 53` lies as far from zero as the integer, on its side. -/
theorem ofInt_exact {n : Int} (small : n.natAbs ≤ 1 <<< 53) :
    (ofInt n).signBit = decide (n < 0) ∧ (ofInt n).isFinite = true ∧
      (ofInt n).steps = n.natAbs * stepsPerUnit := by
  by_cases isZero : n = 0
  · subst isZero
    decide +kernel
  · obtain ⟨significand, shift, counted, normal, narrow, bounded⟩ :=
      exists_significand (Int.natAbs_pos.mpr isZero) small
    have nearest := nearestMagnitude_of_exact counted normal narrow bounded
    have finite : shift <<< 52 + significand < infiniteMagnitude := by
      rw [Nat.shiftLeft_eq] at narrow ⊢
      rw [infiniteMagnitude]
      omega
    have word : shift <<< 52 + significand < 1 <<< 63 := Nat.lt_trans finite (by decide)
    have magnitude : (ofInt n).magnitude = shift <<< 52 + significand := by
      rw [ofInt, ofRatio, nearest, magnitude_ofMagnitude _ word]
    refine ⟨?_, ?_, ?_⟩
    · rw [ofInt, ofRatio, nearest, signBit_ofMagnitude _ word]
    · rw [isFinite, magnitude, decide_eq_true_iff]
      exact finite
    · rw [steps_of_magnitude magnitude normal narrow, counted]

theorem isNaN_of_isFinite {x : Binary64} (finite : x.isFinite = true) : x.isNaN = false := by
  simp only [isFinite, isNaN, decide_eq_true_eq, decide_eq_false_iff_not] at finite ⊢
  omega

theorem truncatesTo_ofInt {n : Int} (small : n.natAbs ≤ 1 <<< 53) : (ofInt n).TruncatesTo n := by
  obtain ⟨sign, finite, exactly⟩ := ofInt_exact small
  have isNumber := isNaN_of_isFinite finite
  constructor
  · intro isNaN
    rw [isNumber] at isNaN
    cases isNaN
  · intro _
    rw [exactly]
    exact ⟨Nat.le_refl _, Nat.mul_lt_mul_of_pos_right (Nat.lt_succ_self _) (by decide)⟩
  · intro _
    rw [sign, decide_eq_true_iff]

/-- Nothing is lost when an integer up to `2 ^ 53` is made a double. -/
theorem toInt?_ofInt {n : Int} (small : n.natAbs ≤ 1 <<< 53) : (ofInt n).toInt? = some n := by
  obtain ⟨-, finite, exactly⟩ := ofInt_exact small
  have noFraction : (ofInt n).steps % stepsPerUnit = 0 := by
    rw [exactly]
    exact Nat.mul_mod_left _ _
  simp only [toInt?, finite, noFraction, beq_self_eq_true, Bool.and_self, if_true,
    ← (truncatesTo_ofInt small).eq_truncate]

/-- What is read from a number is told by its integer part. An integer up to `2 ^ 53` tells what is
read from its double. -/
structure ReadsWhole {α : Type} (read : Binary64 → α) (Tells : Int → α → Prop) : Prop where
  integerPart : ∀ x : Binary64, ∃ n, x.TruncatesTo n ∧ ∀ other, x.TruncatesTo other → other = n
  told : ∀ (x : Binary64) (n : Int), x.TruncatesTo n → Tells n (read x)
  whole : ∀ n : Int, n.natAbs ≤ 1 <<< 53 → Tells n (read (.ofInt n))

theorem readsWhole_of_told {α : Type} {read : Binary64 → α} {Tells : Int → α → Prop}
    (told : ∀ (x : Binary64) (n : Int), x.TruncatesTo n → Tells n (read x)) :
    ReadsWhole read Tells where
  integerPart := exists_truncatesTo
  told := told
  whole := by
    intro n small
    exact told _ n (truncatesTo_ofInt small)

end Binary64

end ViewStyle
