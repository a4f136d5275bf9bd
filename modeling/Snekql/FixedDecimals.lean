import Mathlib.Algebra.Order.Field.Power
import Snekql.CanonicalDecimal

/-!
# Fixed-point decimals

The encoding of decimals for `DECIMAL(precision, scale)`. The encoder counts the digits before the
point and the digits after it that are not trailing zeros, from the coefficient and the exponent
alone, and passes the value on unchanged, without consulting the decimal context. A value is
accepted if and only if it is a whole number of units in the last place of the column, with no more
digits than the precision.
-/

namespace Snekql.Storage

open Snekql.Numerals

/-- The metadata of a `Decimal(precision, scale)` column. -/
structure DecimalShape where
  precision : Nat
  scale : Nat
  scale_le : scale ≤ precision

/-- A `decimal.Decimal`. -/
inductive DecimalNumber where
  | finite (decimal : Decimal)
  | nonFinite
deriving DecidableEq, Repr

/-- The `ModelValidationError`s of `_encode_decimal`. -/
inductive DecimalError where
  | missingMetadata
  | nonFinite
  | doesNotFit (precision scale : Nat)
deriving DecidableEq, Repr

/-- `adjusted()`. -/
def Decimal.adjusted (decimal : Decimal) : Int :=
  decimal.exponent + (digits decimal.coefficient).length - 1

/-- The loop over the digits from the last one: every trailing zero raises the exponent. -/
def significantExponent : Text → Int → Int
  | [], exponent => exponent
  | digit :: rest, exponent =>
    if digit = '0' then significantExponent rest (exponent + 1) else exponent

/-- `_encode_decimal`. -/
def encodeDecimal (shape : Option DecimalShape) (number : DecimalNumber) :
    Except DecimalError DecimalNumber := do
  let some shape := shape | throw .missingMetadata
  let .finite decimal := number | throw .nonFinite
  if decimal.isZero then
    return number
  let integerDigits := max (decimal.adjusted + 1) 0
  let exponent := significantExponent (digits decimal.coefficient).reverse decimal.exponent
  let fractionalDigits := max (-exponent) 0
  if integerDigits > (shape.precision : Int) - shape.scale ∨ fractionalDigits > shape.scale then
    throw (.doesNotFit shape.precision shape.scale)
  return number

/-- What a `DECIMAL(precision, scale)` column holds: at most `precision` digits, of which `scale` are
fractional. -/
def Representable (shape : DecimalShape) (value : ℚ) : Prop :=
  ∃ unscaled : Int, |unscaled| < 10 ^ shape.precision ∧ value = unscaled / 10 ^ shape.scale

/-! ## Digits -/

/-- The loop ends at the last digit that is not zero. -/
theorem significantExponent_spec {reversed : Text} (digits : AllDigits reversed)
    (nonzero : numeral reversed.reverse ≠ 0) (exponent : Int) :
    ∃ count kept, significantExponent reversed exponent = exponent + (count : Nat) ∧
      numeral reversed.reverse = kept * 10 ^ count ∧ ¬10 ∣ kept := by
  induction reversed generalizing exponent with
  | nil => exact absurd rfl nonzero
  | cons digit rest ih =>
    have later : AllDigits rest := fun char listed => digits char (List.mem_cons_of_mem _ listed)
    have written : numeral (digit :: rest).reverse = numeral rest.reverse * 10 +
        (digit.toNat - 48) := by
      rw [List.reverse_cons, numeral_append, numeral_singleton]
      rfl
    rw [written] at nonzero ⊢
    by_cases zero : digit = '0'
    · subst zero
      obtain ⟨count, kept, loop, split, indivisible⟩ :=
        ih later (fun none => nonzero (by rw [none]; rfl)) (exponent + 1)
      refine ⟨count + 1, kept, ?_, ?_, indivisible⟩
      · rw [significantExponent, if_pos rfl, loop]
        push_cast
        ring
      · rw [split, Nat.pow_succ, ← Nat.mul_assoc]
        rfl
    · have bounds := digit_value (digits digit List.mem_cons_self)
      have other : digit.toNat ≠ 48 := fun same => zero (Char.toNat_inj.mp same)
      refine ⟨0, numeral rest.reverse * 10 + (digit.toNat - 48), ?_, ?_, ?_⟩
      · rw [significantExponent, if_neg zero]
        exact (add_zero exponent).symm
      · rw [Nat.pow_zero, Nat.mul_one]
      · omega

theorem le_length_digits {number count : Nat} (few : number < 10 ^ count) (positive : 0 < number) :
    (digits number).length ≤ count := by
  have some : 0 < count := by
    refine Nat.pos_of_ne_zero ?_
    rintro rfl
    omega
  exact Nat.toDigits_length 10 number count some few

/-- A number is below a power of ten if and only if it has no more digits than the exponent. -/
theorem lt_power_iff {number : Nat} (positive : 0 < number) (exponent : Int) :
    (number : ℚ) < 10 ^ exponent ↔ (digits number).length ≤ exponent := by
  constructor
  · intro below
    have least : (10 : ℚ) ^ (0 : Int) ≤ number := by
      rw [zpow_zero]
      exact_mod_cast positive
    have above : 0 < exponent := (zpow_lt_zpow_iff_right₀ (by norm_num)).mp (least.trans_lt below)
    lift exponent to Nat using above.le
    rw [zpow_natCast] at below
    exact_mod_cast le_length_digits (by exact_mod_cast below) positive
  · intro long
    have small : (number : ℚ) < 10 ^ ((digits number).length : Int) := by
      have bound := numeral_lt (allDigits_digits number)
      rw [numeral_digits] at bound
      rw [zpow_natCast]
      exact_mod_cast bound
    exact small.trans_le (zpow_le_zpow_right₀ (by norm_num) long)

/-! ## Representable values -/

theorem abs_value (decimal : Decimal) :
    |decimal.value| = decimal.coefficient * 10 ^ decimal.exponent := by
  have power : (0 : ℚ) ≤ decimal.coefficient * 10 ^ decimal.exponent := by positivity
  rw [Decimal.value, mul_assoc, abs_mul, abs_of_nonneg power]
  cases decimal.negative <;> norm_num

/-- Only the number of units in the last place matters, not the sign. -/
theorem representable_iff_units (shape : DecimalShape) (decimal : Decimal) :
    Representable shape decimal.value ↔ ∃ units : Nat, units < 10 ^ shape.precision ∧
      (decimal.coefficient : ℚ) * 10 ^ (decimal.exponent + shape.scale) = units := by
  have power : (10 : ℚ) ^ shape.scale ≠ 0 := by positivity
  have scaled : (decimal.coefficient : ℚ) * 10 ^ (decimal.exponent + shape.scale) =
      |decimal.value * 10 ^ shape.scale| := by
    rw [abs_mul, abs_value, zpow_add₀ (by norm_num), zpow_natCast, abs_of_nonneg
      (show (0 : ℚ) ≤ 10 ^ shape.scale by positivity), mul_assoc]
  rw [scaled]
  constructor
  · rintro ⟨unscaled, small, same⟩
    rw [Int.abs_eq_natAbs] at small
    refine ⟨unscaled.natAbs, by exact_mod_cast small, ?_⟩
    rw [same, div_mul_cancel₀ _ power, Nat.cast_natAbs, Int.cast_abs]
  · rintro ⟨units, small, same⟩
    obtain positive | negative := abs_choice (decimal.value * 10 ^ shape.scale)
    · refine ⟨units, by rw [Nat.abs_cast]; exact_mod_cast small, ?_⟩
      rw [Int.cast_natCast, ← same, positive, mul_div_cancel_right₀ _ power]
    · refine ⟨-units, by rw [abs_neg, Nat.abs_cast]; exact_mod_cast small, ?_⟩
      rw [Int.cast_neg, Int.cast_natCast, ← same, negative, neg_neg,
        mul_div_cancel_right₀ _ power]

/-- A number is whole if and only if no digit that counts is behind the point. -/
theorem whole_iff {kept : Nat} (indivisible : ¬10 ∣ kept) (exponent : Int) :
    (∃ units : Nat, (kept : ℚ) * 10 ^ exponent = units) ↔ 0 ≤ exponent := by
  constructor
  · rintro ⟨units, same⟩
    by_contra negative
    obtain ⟨count, rfl⟩ : ∃ count : Nat, exponent = -(count + 1 : Nat) :=
      ⟨(-exponent - 1).toNat, by omega⟩
    rw [zpow_neg, zpow_natCast, ← div_eq_mul_inv, div_eq_iff (by positivity)] at same
    have split : kept = units * 10 ^ (count + 1) := by exact_mod_cast same
    exact indivisible (split ▸ Dvd.dvd.mul_left (dvd_pow_self 10 (Nat.succ_ne_zero count)) units)
  · intro whole
    lift exponent to Nat using whole
    exact ⟨kept * 10 ^ exponent, by push_cast; rw [zpow_natCast]⟩

theorem representable_iff {shape : DecimalShape} {decimal : Decimal} {kept count : Nat}
    (positive : 0 < decimal.coefficient) (split : decimal.coefficient = kept * 10 ^ count)
    (indivisible : ¬10 ∣ kept) :
    Representable shape decimal.value ↔
      decimal.exponent + (digits decimal.coefficient).length ≤ shape.precision - shape.scale ∧
        -(decimal.exponent + count) ≤ shape.scale := by
  have few : decimal.exponent + (digits decimal.coefficient).length ≤
      shape.precision - shape.scale ↔
        (decimal.coefficient : ℚ) * 10 ^ (decimal.exponent + shape.scale) <
          10 ^ shape.precision := by
    rw [← lt_div_iff₀ (by positivity), ← zpow_natCast, ← zpow_sub₀ (by norm_num),
      lt_power_iff positive]
    omega
  have fraction : -(decimal.exponent + count) ≤ (shape.scale : Int) ↔ ∃ units : Nat,
      (decimal.coefficient : ℚ) * 10 ^ (decimal.exponent + shape.scale) = units := by
    have raised : (decimal.coefficient : ℚ) * 10 ^ (decimal.exponent + shape.scale) =
        kept * 10 ^ (decimal.exponent + count + shape.scale) := by
      rw [split, Nat.cast_mul, Nat.cast_pow, Nat.cast_ofNat, mul_assoc, ← zpow_natCast,
        ← zpow_add₀ (by norm_num)]
      ring_nf
    rw [raised, whole_iff indivisible]
    omega
  rw [representable_iff_units, few, fraction]
  constructor
  · rintro ⟨units, small, same⟩
    exact ⟨by rw [same]; exact_mod_cast small, units, same⟩
  · rintro ⟨small, units, same⟩
    rw [same] at small
    exact ⟨units, by exact_mod_cast small, same⟩

/-! ## The encoder -/

theorem encodeDecimal_eq (shape : DecimalShape) (decimal : Decimal) :
    encodeDecimal (some shape) (.finite decimal) = .ok (.finite decimal) ∨
      encodeDecimal (some shape) (.finite decimal) =
        .error (.doesNotFit shape.precision shape.scale) := by
  simp only [encodeDecimal]
  split_ifs
  · exact .inl rfl
  · exact .inr rfl
  · exact .inl rfl

/-- The encoder accepts the values that the column holds, whatever their exponent. -/
theorem encodeDecimal_accepts_iff (shape : DecimalShape) (decimal : Decimal) :
    encodeDecimal (some shape) (.finite decimal) = .ok (.finite decimal) ↔
      Representable shape decimal.value := by
  by_cases zero : decimal.coefficient = 0
  · have none : decimal.value = 0 := (value_zero_iff decimal).mpr zero
    have accepted : decimal.isZero = true := by rw [Decimal.isZero, zero, beq_self_eq_true]
    simp only [encodeDecimal, accepted, if_true]
    exact ⟨fun _ => ⟨0, by simp, by simp [none]⟩, fun _ => rfl⟩
  · have written := numeral_digits decimal.coefficient
    obtain ⟨count, kept, loop, split, indivisible⟩ := significantExponent_spec
      (fun char listed => allDigits_digits decimal.coefficient char (List.mem_reverse.mp listed))
      (by rwa [List.reverse_reverse, written]) decimal.exponent
    rw [List.reverse_reverse, written] at split
    have counted : decimal.isZero = false := beq_false_of_ne zero
    have shorter := shape.scale_le
    rw [representable_iff (Nat.pos_of_ne_zero zero) split indivisible]
    simp only [encodeDecimal, counted, loop, Decimal.adjusted, Bool.false_eq_true, if_false]
    split_ifs with refused
    · constructor
      · intro accepted
        cases accepted
      · intro fits
        omega
    · constructor
      · intro accepted
        omega
      · intro fits
        rfl

/-- Every finite decimal that `DECIMAL(precision, scale)` holds is encoded as itself, and every other
one is refused. -/
theorem decimals_are_encoded_iff_representable (shape : DecimalShape) (decimal : Decimal) :
    (encodeDecimal (some shape) (.finite decimal) = .ok (.finite decimal) ↔
        Representable shape decimal.value) ∧
      (encodeDecimal (some shape) (.finite decimal) =
          .error (.doesNotFit shape.precision shape.scale) ↔
        ¬Representable shape decimal.value) := by
  have accepts := encodeDecimal_accepts_iff shape decimal
  refine ⟨accepts, ?_⟩
  rw [← accepts]
  obtain accepted | refused := encodeDecimal_eq shape decimal
  · simp [accepted]
  · simp [refused]

end Snekql.Storage
