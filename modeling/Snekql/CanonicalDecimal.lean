import Mathlib.Data.List.TakeWhile
import Mathlib.Tactic.FieldSimp
import Mathlib.Tactic.Positivity
import Snekql.Numerals

/-!
# Canonical decimals

The text encoding of decimals. A finite decimal is a sign, a coefficient and an exponent, of any
size. Formatting without a precision and construction from text do not consult the decimal context,
so there is none here. A value is canonical if its digits after the point do not end in zero, and
zero is canonical without a sign. Canonical decimals are equal if they are the same number.
-/

namespace Snekql.Storage

open Snekql.Numerals

/-- A finite `Decimal`. -/
structure Decimal where
  negative : Bool
  coefficient : Nat
  exponent : Int
deriving DecidableEq, Repr

namespace Decimal

/-- `Decimal(0)`. -/
def zero : Decimal := { negative := false, coefficient := 0, exponent := 0 }

/-- `is_zero`. -/
def isZero (decimal : Decimal) : Bool := decimal.coefficient == 0

/-- The number that a decimal stands for. -/
def value (decimal : Decimal) : ℚ :=
  (if decimal.negative then -1 else 1) * decimal.coefficient * 10 ^ decimal.exponent

/-- The digits before and after the point in plain notation. -/
def plainParts (decimal : Decimal) : Text × Text :=
  let written := digits decimal.coefficient
  let place := decimal.exponent + written.length
  if place < 0 then (['0'], zeros (-place).toNat ++ written)
  else if place > written.length then (written ++ zeros (place - written.length).toNat, [])
  else
    (if (written.take place.toNat).isEmpty then ['0'] else written.take place.toNat,
      written.drop place.toNat)

/-- A number in plain notation. -/
def plainText (negative : Bool) (whole fraction : Text) : Text :=
  (if negative then ['-'] else []) ++ whole ++
    (if fraction.isEmpty then [] else '.' :: fraction)

/-- `format(value, "f")`. -/
def format (decimal : Decimal) : Text :=
  plainText decimal.negative decimal.plainParts.1 decimal.plainParts.2

/-- The sign of a text and what follows it. -/
def signed : Text → Bool × Text
  | '-' :: rest => (true, rest)
  | '+' :: rest => (false, rest)
  | text => (false, text)

/-- The digits after the point. -/
def fractionDigits : Text → Option Text
  | [] => some []
  | '.' :: rest => if rest.all Char.isDigit then some rest else none
  | _ => none

/-- `Decimal(text)`, for texts in plain notation. -/
def ofText (text : Text) : Option Decimal := do
  let (negative, unsigned) := signed text
  let whole := unsigned.takeWhile Char.isDigit
  let fraction ← fractionDigits (unsigned.dropWhile Char.isDigit)
  if (whole ++ fraction).isEmpty then none
  else some { negative, coefficient := numeral (whole ++ fraction), exponent := -fraction.length }

end Decimal

/-- `str.rstrip` of one character. -/
def rstripChar (char : Char) (text : Text) : Text :=
  (text.reverse.dropWhile (· == char)).reverse

/-- `_normalize_canonical_decimal`. -/
def normalizeCanonicalDecimal (decimal : Decimal) : Option Decimal :=
  if decimal.isZero then some .zero
  else
    let plain := decimal.format
    Decimal.ofText (if plain.contains '.' then rstripChar '.' (rstripChar '0' plain) else plain)

/-- `_serialize_canonical_decimal`. -/
def serializeCanonicalDecimal (decimal : Decimal) : Option Text :=
  (normalizeCanonicalDecimal decimal).map Decimal.format

/-! ## Plain notation -/

variable {decimal : Decimal} {count : Nat}

section Plain

variable {whole fraction : Text}

theorem takeWhile_digits (digits : AllDigits whole) (rest : Text)
    (ends : rest.head?.all (fun char => !char.isDigit) = true) :
    (whole ++ rest).takeWhile Char.isDigit = whole ∧
      (whole ++ rest).dropWhile Char.isDigit = rest := by
  have stops : rest.takeWhile Char.isDigit = [] ∧ rest.dropWhile Char.isDigit = rest := by
    cases rest with
    | nil => exact ⟨rfl, rfl⟩
    | cons char rest =>
      have other : char.isDigit = false := by simpa using ends
      simp [other]
  rw [List.takeWhile_append_of_pos digits, List.dropWhile_append_of_pos digits, stops.1, stops.2,
    List.append_nil]
  exact ⟨rfl, rfl⟩

theorem signed_plainText (negative : Bool) (digits : AllDigits whole) (present : whole ≠ [])
    (fraction : Text) :
    Decimal.signed (Decimal.plainText negative whole fraction) =
      (negative, whole ++ (if fraction.isEmpty then [] else '.' :: fraction)) := by
  cases negative with
  | true => rfl
  | false =>
    cases whole with
    | nil => exact absurd rfl present
    | cons char rest =>
      have digit := digits char List.mem_cons_self
      change Decimal.signed (char :: _) = (false, char :: _)
      unfold Decimal.signed
      split
      · rename_i same
        cases same
        cases digit
      · rename_i same
        cases same
        cases digit
      · rfl

/-- A number in plain notation is read exactly. -/
theorem ofText_plainText (negative : Bool) (digits : AllDigits whole) (present : whole ≠ [])
    (others : AllDigits fraction) :
    Decimal.ofText (Decimal.plainText negative whole fraction) =
      some { negative, coefficient := numeral (whole ++ fraction),
             exponent := -fraction.length } := by
  have ends : (if fraction.isEmpty then [] else '.' :: fraction).head?.all
      (fun char => !char.isDigit) = true := by
    cases fraction <;> rfl
  have read : Decimal.fractionDigits (if fraction.isEmpty then [] else '.' :: fraction) =
      some fraction := by
    cases fraction with
    | nil => rfl
    | cons char rest =>
      have all : (char :: rest).all Char.isDigit = true := List.all_eq_true.mpr others
      simp only [List.isEmpty_cons, Bool.false_eq_true, if_false, Decimal.fractionDigits, all,
        if_true]
  have nonempty : (whole ++ fraction).isEmpty = false := by
    rw [List.isEmpty_eq_false_iff]
    exact fun empty => present (List.append_eq_nil_iff.mp empty).1
  obtain ⟨taken, dropped⟩ := takeWhile_digits digits _ ends
  rw [Decimal.ofText, signed_plainText negative digits present]
  simp only [taken, dropped, read, nonempty, Option.bind_eq_bind, Option.bind_some,
    Bool.false_eq_true, if_false]

/-- A decimal without a positive exponent has as many digits after the point as its exponent
tells. -/
structure Written (decimal : Decimal) (count : Nat) : Prop where
  wholeDigits : AllDigits decimal.plainParts.1
  present : decimal.plainParts.1 ≠ []
  fractionDigits : AllDigits decimal.plainParts.2
  length : decimal.plainParts.2.length = count
  coefficient : numeral (decimal.plainParts.1 ++ decimal.plainParts.2) = decimal.coefficient

theorem written_of_exponent (exponent : decimal.exponent = -count) : Written decimal count := by
  have all := allDigits_digits decimal.coefficient
  have given := numeral_digits decimal.coefficient
  generalize shown : digits decimal.coefficient = written at all given
  by_cases left : decimal.exponent + written.length < 0
  · have parts : decimal.plainParts = (['0'],
        zeros (-(decimal.exponent + written.length)).toNat ++ written) := by
      simp only [Decimal.plainParts, shown, left, if_true]
    have zero : AllDigits ['0'] := allDigits_zeros 1
    constructor
    · rw [parts]
      exact zero
    · rw [parts]
      exact List.cons_ne_nil _ _
    · rw [parts]
      exact (allDigits_zeros _).append all
    · rw [parts]
      simp only [List.length_append, zeros, List.length_replicate]
      omega
    · have none : numeral ['0'] = 0 := numeral_zeros 1
      rw [parts]
      simp only [numeral_append, numeral_zeros, none, Nat.zero_mul, Nat.zero_add, given]
  · have inside : ¬decimal.exponent + written.length > written.length := by omega
    have parts : decimal.plainParts =
        (if (written.take (decimal.exponent + written.length).toNat).isEmpty then ['0']
          else written.take (decimal.exponent + written.length).toNat,
          written.drop (decimal.exponent + written.length).toNat) := by
      simp only [Decimal.plainParts, shown, left, inside, if_false]
    have size : (decimal.exponent + written.length).toNat + count = written.length := by omega
    generalize (decimal.exponent + written.length).toNat = place at parts size
    have joined := List.take_append_drop place written
    have digitsAfter : AllDigits (written.drop place) :=
      fun char listed => all char (List.mem_of_mem_drop listed)
    have lengthAfter : (written.drop place).length = count := by
      rw [List.length_drop]
      omega
    cases whole : written.take place with
    | nil =>
      have none : numeral ['0'] = 0 := numeral_zeros 1
      rw [whole, List.nil_append] at joined
      simp only [whole, List.isEmpty_nil, if_true] at parts
      constructor <;> rw [parts]
      · exact allDigits_zeros 1
      · exact List.cons_ne_nil _ _
      · exact digitsAfter
      · exact lengthAfter
      · simp only [numeral_append, none, Nat.zero_mul, Nat.zero_add, joined, given]
    | cons first rest =>
      simp only [whole, List.isEmpty_cons, Bool.false_eq_true, if_false] at parts
      constructor <;> rw [parts]
      · exact fun char listed => all char (List.mem_of_mem_take (whole ▸ listed))
      · exact List.cons_ne_nil _ _
      · exact digitsAfter
      · exact lengthAfter
      · simp only [← whole, joined, given]

/-- A positive exponent adds zeros before the point. -/
theorem plainParts_of_pos (exponent : decimal.exponent = count + 1) :
    decimal.plainParts = (digits decimal.coefficient ++ zeros (count + 1), []) := by
  have right : ¬decimal.exponent + (digits decimal.coefficient).length < 0 := by omega
  have beyond : decimal.exponent + (digits decimal.coefficient).length >
      (digits decimal.coefficient).length := by omega
  have filled : (decimal.exponent + (digits decimal.coefficient).length -
      (digits decimal.coefficient).length).toNat = count + 1 := by omega
  simp only [Decimal.plainParts, right, beyond, filled, if_false, if_true]

/-! ## Stripping zeros -/

/-- Only the repeated character at the end is removed. -/
theorem rstripChar_append {char : Char} {kept : Text} (ends : kept.getLast? ≠ some char)
    (count : Nat) : rstripChar char (kept ++ List.replicate count char) = kept := by
  have stays : kept.reverse.dropWhile (· == char) = kept.reverse := by
    cases reversed : kept.reverse with
    | nil => rfl
    | cons first rest =>
      have last : kept.getLast? = some first := by
        rw [List.getLast?_eq_head?_reverse, reversed]
        rfl
      have differs : (first == char) = false := by
        rw [beq_eq_false_iff_ne]
        rintro rfl
        exact ends last
      rw [List.dropWhile_cons_of_neg (by simp [differs])]
  rw [rstripChar, List.reverse_append, List.reverse_replicate,
    List.dropWhile_append_of_pos (by simp), stays, List.reverse_reverse]

/-- A text is what remains after stripping, and the characters that were stripped. -/
theorem rstripChar_spec (char : Char) (text : Text) :
    ∃ count, text = rstripChar char text ++ List.replicate count char ∧
      (rstripChar char text).getLast? ≠ some char := by
  refine ⟨(text.reverse.takeWhile (· == char)).length, ?_, ?_⟩
  · have removed : (text.reverse.takeWhile (· == char)).reverse =
        List.replicate (text.reverse.takeWhile (· == char)).length char := by
      rw [List.eq_replicate_iff, List.length_reverse]
      refine ⟨rfl, fun other listed => ?_⟩
      simpa using List.mem_takeWhile_imp (List.mem_reverse.mp listed)
    rw [← removed, rstripChar, ← List.reverse_append, List.takeWhile_append_dropWhile,
      List.reverse_reverse]
  · rw [rstripChar, List.getLast?_reverse]
    intro first
    have absent := List.head?_dropWhile_not (· == char) text.reverse
    rw [first] at absent
    simp at absent

theorem getLast?_ne_of_digits {text : Text} (digits : AllDigits text) {char : Char}
    (other : char.isDigit = false) : text.getLast? ≠ some char := by
  intro last
  have digit := digits char (List.mem_of_getLast? last)
  rw [other] at digit
  cases digit

/-- Stripping zeros and then the point removes the trailing zeros of the fraction, and the point
if no digit remains after it. -/
theorem strip_plainText (negative : Bool) (digits : AllDigits whole) (present : whole ≠ [])
    (others : AllDigits fraction) (fractional : fraction ≠ []) :
    rstripChar '.' (rstripChar '0' (Decimal.plainText negative whole fraction)) =
      Decimal.plainText negative whole (rstripChar '0' fraction) := by
  obtain ⟨count, split, ends⟩ := rstripChar_spec '0' fraction
  have shown : Decimal.plainText negative whole fraction =
      (if negative then ['-'] else []) ++ whole ++ '.' :: fraction := by
    rw [Decimal.plainText, List.isEmpty_eq_false_iff.mpr fractional]
    rfl
  generalize rstripChar '0' fraction = kept at split ends
  have keptDigits : AllDigits kept := fun char listed =>
    others char (split ▸ List.mem_append_left _ listed)
  have zeros : rstripChar '0' (Decimal.plainText negative whole fraction) =
      (if negative then ['-'] else []) ++ whole ++ '.' :: kept := by
    have regrouped : Decimal.plainText negative whole fraction =
        ((if negative then ['-'] else []) ++ whole ++ '.' :: kept) ++
          List.replicate count '0' := by
      rw [shown, split]
      simp only [List.append_assoc, List.cons_append]
    rw [regrouped]
    refine rstripChar_append ?_ count
    rw [List.getLast?_append]
    cases kept with
    | nil => simp
    | cons first rest => simpa [List.getLast?_cons_cons] using ends
  rw [zeros]
  cases kept with
  | nil =>
    have last : ((if negative then ['-'] else []) ++ whole).getLast? ≠ some '.' := by
      rw [List.getLast?_append_of_ne_nil _ present]
      exact getLast?_ne_of_digits digits rfl
    exact (rstripChar_append last 1).trans (List.append_nil _).symm
  | cons first rest =>
    have last : ((if negative then ['-'] else []) ++ whole ++ '.' :: first :: rest).getLast? ≠
        some '.' := by
      rw [List.getLast?_append_of_ne_nil _ (List.cons_ne_nil _ _), List.getLast?_cons_cons]
      exact getLast?_ne_of_digits keptDigits rfl
    have stays := rstripChar_append last 0
    rw [List.replicate_zero, List.append_nil] at stays
    exact stays

theorem contains_point (negative : Bool) (digits : AllDigits whole) (fraction : Text) :
    (Decimal.plainText negative whole fraction).contains '.' = !fraction.isEmpty := by
  have absent : '.' ∉ whole := by
    intro listed
    have digit := digits '.' listed
    cases digit
  cases fraction with
  | nil => cases negative <;> simp [Decimal.plainText, absent]
  | cons first rest => simp [Decimal.plainText]

end Plain

/-! ## Canonical decimals -/

/-- No zeros at the end of the fraction, and no exponent otherwise. -/
structure Canonical (decimal : Decimal) : Prop where
  exponent : ∃ count : Nat, decimal.exponent = -count ∧
    (count = 0 ∨ ¬10 ∣ decimal.coefficient)
  zero : decimal.coefficient = 0 → decimal = .zero

theorem value_of_exponent (exponent : decimal.exponent = -count) :
    decimal.value = (if decimal.negative then -1 else 1) * (decimal.coefficient / 10 ^ count) := by
  rw [Decimal.value, exponent, zpow_neg, zpow_natCast]
  ring

theorem value_zero_iff (decimal : Decimal) : decimal.value = 0 ↔ decimal.coefficient = 0 := by
  have power : (10 : ℚ) ^ decimal.exponent ≠ 0 := zpow_ne_zero _ (by norm_num)
  rw [Decimal.value]
  cases decimal.negative <;> simp [power]

/-- Fractions without trailing zeros are equal only if they are written alike. -/
theorem fraction_unique {first second other : Nat} (shortest : count = 0 ∨ ¬10 ∣ first)
    (otherShortest : other = 0 ∨ ¬10 ∣ second) (same : first * 10 ^ other = second * 10 ^ count) :
    first = second ∧ count = other := by
  have positive (exponent : Nat) : 0 < 10 ^ exponent := Nat.pow_pos (by decide)
  have onlyOne {first second count rest : Nat} (shortest : count + rest = 0 ∨ ¬10 ∣ second)
      (same : first * 10 ^ (count + rest) = second * 10 ^ count) : rest = 0 := by
    rw [Nat.pow_add, ← Nat.mul_assoc, Nat.mul_right_comm] at same
    have reduced := Nat.eq_of_mul_eq_mul_right (positive count) same
    cases rest with
    | zero => rfl
    | succ rest =>
      obtain impossible | indivisible := shortest
      · omega
      · refine absurd ?_ indivisible
        rw [← reduced, Nat.pow_succ]
        exact ⟨first * 10 ^ rest, by ring⟩
  have equal : count = other := by
    obtain ⟨rest, rfl⟩ | ⟨rest, rfl⟩ := (Nat.le_total count other).imp
      Nat.exists_eq_add_of_le Nat.exists_eq_add_of_le
    · rw [onlyOne otherShortest same, Nat.add_zero]
    · rw [onlyOne shortest same.symm, Nat.add_zero]
  subst equal
  exact ⟨Nat.eq_of_mul_eq_mul_right (positive count) same, rfl⟩

/-- Canonical decimals that are the same number are equal. -/
theorem Canonical.eq_of_value {first second : Decimal} (canonical : Canonical first)
    (other : Canonical second) (same : first.value = second.value) : first = second := by
  obtain ⟨count, exponent, shortest⟩ := canonical.exponent
  obtain ⟨otherCount, otherExponent, otherShortest⟩ := other.exponent
  by_cases none : first.coefficient = 0
  · have noneEither : second.coefficient = 0 := by
      rw [← value_zero_iff, ← same, value_zero_iff, none]
    rw [canonical.zero none, other.zero noneEither]
  · have someEither : second.coefficient ≠ 0 := by
      rw [ne_eq, ← value_zero_iff, ← same, value_zero_iff]
      exact none
    have size : (0 : ℚ) < first.coefficient / 10 ^ count := by positivity
    have otherSize : (0 : ℚ) < second.coefficient / 10 ^ otherCount := by positivity
    rw [value_of_exponent exponent, value_of_exponent otherExponent] at same
    have signs : first.negative = second.negative := by
      cases left : first.negative <;> cases right : second.negative <;> simp [left, right] at same
      · rfl
      · linarith
      · linarith
      · rfl
    have sizes : (first.coefficient : ℚ) / 10 ^ count =
        second.coefficient / 10 ^ otherCount := by
      rw [signs] at same
      refine mul_left_cancel₀ ?_ same
      cases second.negative <;> norm_num
    have whole : first.coefficient * 10 ^ otherCount = second.coefficient * 10 ^ count := by
      rw [div_eq_div_iff (by positivity) (by positivity)] at sizes
      exact_mod_cast sizes
    obtain ⟨coefficients, counts⟩ := fraction_unique shortest otherShortest whole
    cases first
    cases second
    simp only at signs coefficients exponent otherExponent
    simp only [signs, coefficients, exponent, otherExponent, counts]

/-! ## Normalization -/

theorem not_dvd_of_last {text : Text} (digits : AllDigits text) (present : text ≠ [])
    (ends : text.getLast? ≠ some '0') : ¬10 ∣ numeral text := by
  have split := List.dropLast_append_getLast present
  have digit := digit_value (digits _ (List.getLast_mem present))
  have nonzero : (text.getLast present).toNat ≠ 48 := by
    intro same
    refine ends ?_
    rw [List.getLast?_eq_some_getLast present]
    exact congrArg some (Char.toNat_inj.mp same)
  rw [← split, numeral_append, numeral_singleton, List.length_singleton]
  omega

/-- Without zeros at the end of the fraction the number stays the same. -/
theorem numeral_strip {whole fraction kept : Text}
    (split : fraction = kept ++ List.replicate count '0') :
    numeral (whole ++ fraction) = numeral (whole ++ kept) * 10 ^ count := by
  have none : numeral (List.replicate count '0') = 0 := numeral_zeros count
  rw [split, ← List.append_assoc, numeral_append _ (List.replicate count '0'), none,
    List.length_replicate, Nat.add_zero]

/-- The format of a decimal without a positive exponent is read back as the decimal. -/
theorem ofText_format (exponent : decimal.exponent = -count) :
    Decimal.ofText decimal.format = some decimal := by
  have written := written_of_exponent exponent
  rw [Decimal.format, ofText_plainText _ written.wholeDigits written.present
    written.fractionDigits, written.coefficient, written.length, ← exponent]

theorem normalize_fraction (nonzero : decimal.coefficient ≠ 0)
    (exponent : decimal.exponent = -count) :
    ∃ canonical, normalizeCanonicalDecimal decimal = some canonical ∧ Canonical canonical ∧
      canonical.value = decimal.value := by
  have written := written_of_exponent exponent
  have point := contains_point decimal.negative written.wholeDigits decimal.plainParts.2
  have started : normalizeCanonicalDecimal decimal = Decimal.ofText
      (if decimal.format.contains '.' then rstripChar '.' (rstripChar '0' decimal.format)
        else decimal.format) := by
    rw [normalizeCanonicalDecimal, if_neg (by simpa [Decimal.isZero] using nonzero)]
  by_cases empty : decimal.plainParts.2 = []
  · have none : count = 0 := by rw [← written.length, empty, List.length_nil]
    refine ⟨decimal, ?_, ⟨⟨count, exponent, .inl none⟩, fun isZero => absurd isZero nonzero⟩, rfl⟩
    have pointless : decimal.format.contains '.' = false := by
      rw [Decimal.format, point, empty]
      rfl
    rw [started, pointless]
    exact ofText_format exponent
  · obtain ⟨stripped, split, ends⟩ := rstripChar_spec '0' decimal.plainParts.2
    have keptDigits : AllDigits (rstripChar '0' decimal.plainParts.2) := fun char listed =>
      written.fractionDigits char (split ▸ List.mem_append_left _ listed)
    have coefficient : decimal.coefficient =
        numeral (decimal.plainParts.1 ++ rstripChar '0' decimal.plainParts.2) * 10 ^ stripped := by
      rw [← written.coefficient]
      exact numeral_strip split
    have length : count = (rstripChar '0' decimal.plainParts.2).length + stripped := by
      have lengths := congrArg List.length split
      rw [written.length, List.length_append, List.length_replicate] at lengths
      exact lengths
    have pointed : decimal.format.contains '.' = true := by
      rw [Decimal.format, point, List.isEmpty_eq_false_iff.mpr empty]
      rfl
    have read : normalizeCanonicalDecimal decimal = some
        { negative := decimal.negative
          coefficient := numeral (decimal.plainParts.1 ++ rstripChar '0' decimal.plainParts.2)
          exponent := -(rstripChar '0' decimal.plainParts.2).length } := by
      rw [started, pointed, if_pos rfl, Decimal.format,
        strip_plainText _ written.wholeDigits written.present written.fractionDigits empty,
        ofText_plainText _ written.wholeDigits written.present keptDigits]
    refine ⟨_, read, ⟨⟨_, rfl, ?_⟩, fun isZero => ?_⟩, ?_⟩
    · by_cases none : rstripChar '0' decimal.plainParts.2 = []
      · exact .inl (by rw [none, List.length_nil])
      · refine .inr (not_dvd_of_last (written.wholeDigits.append keptDigits)
          (List.append_ne_nil_of_right_ne_nil _ none) ?_)
        rw [List.getLast?_append_of_ne_nil _ none]
        exact ends
    · simp only at isZero
      rw [isZero, Nat.zero_mul] at coefficient
      exact absurd coefficient nonzero
    · rw [value_of_exponent rfl, value_of_exponent exponent]
      simp only
      rw [coefficient, length]
      push_cast
      rw [pow_add]
      field_simp

theorem normalize_whole (nonzero : decimal.coefficient ≠ 0)
    (exponent : decimal.exponent = count + 1) :
    ∃ canonical, normalizeCanonicalDecimal decimal = some canonical ∧ Canonical canonical ∧
      canonical.value = decimal.value := by
  have parts := plainParts_of_pos exponent
  have all : AllDigits (digits decimal.coefficient ++ zeros (count + 1)) :=
    (allDigits_digits _).append (allDigits_zeros _)
  have present : digits decimal.coefficient ++ zeros (count + 1) ≠ [] :=
    List.append_ne_nil_of_left_ne_nil (digits_ne_nil _) _
  have number : numeral (digits decimal.coefficient ++ zeros (count + 1) ++ []) =
      decimal.coefficient * 10 ^ (count + 1) := by
    rw [List.append_nil, numeral_append, numeral_digits, numeral_zeros, zeros,
      List.length_replicate, Nat.add_zero]
  have formatted : decimal.format = Decimal.plainText decimal.negative
      (digits decimal.coefficient ++ zeros (count + 1)) [] := by
    rw [Decimal.format, parts]
  have pointless : decimal.format.contains '.' = false := by
    rw [formatted, contains_point _ all]
    rfl
  have read : normalizeCanonicalDecimal decimal = some
      { negative := decimal.negative
        coefficient := decimal.coefficient * 10 ^ (count + 1)
        exponent := 0 } := by
    rw [normalizeCanonicalDecimal, if_neg (by simpa [Decimal.isZero] using nonzero)]
    simp only [pointless, Bool.false_eq_true, if_false]
    rw [formatted, ofText_plainText _ all present (fun _ listed => by cases listed), number]
    rfl
  refine ⟨_, read, ⟨⟨0, rfl, .inl rfl⟩, fun isZero => ?_⟩, ?_⟩
  · have power : 10 ^ (count + 1) ≠ 0 := by positivity
    exact absurd ((Nat.mul_eq_zero.mp isZero).resolve_right power) nonzero
  · have power : (10 : ℚ) ^ decimal.exponent = 10 ^ (count + 1) := by
      rw [exponent]
      exact_mod_cast zpow_natCast (10 : ℚ) (count + 1)
    simp only [Decimal.value, power, zpow_zero, mul_one]
    push_cast
    ring

/-- Every decimal has a canonical form, which is the same number. -/
theorem normalize_spec (decimal : Decimal) :
    ∃ canonical, normalizeCanonicalDecimal decimal = some canonical ∧ Canonical canonical ∧
      canonical.value = decimal.value := by
  by_cases none : decimal.coefficient = 0
  · refine ⟨.zero, ?_, ⟨⟨0, rfl, .inl rfl⟩, fun _ => rfl⟩, ?_⟩
    · rw [normalizeCanonicalDecimal, if_pos (by simpa [Decimal.isZero] using none)]
    · rw [(value_zero_iff decimal).mpr none, value_zero_iff]
      rfl
  · obtain ⟨count, exponent | exponent⟩ := decimal.exponent.eq_nat_or_neg
    · cases count with
      | zero =>
        have negated : decimal.exponent = -(0 : Nat) := by rw [exponent]; rfl
        exact normalize_fraction none negated
      | succ count => exact normalize_whole none (by rw [exponent]; rfl)
    · exact normalize_fraction none exponent

example : serializeCanonicalDecimal ⟨true, 1200, -3⟩ = some "-1.2".toList := by decide

/-- For every finite decimal: the canonical form is the same number and its own canonical form. The
serialized text reads back as the canonical form. Two decimals have the same text if and only if
they are the same number. -/
theorem canonical_decimals_are_exact (decimal : Decimal) :
    (∃ canonical, normalizeCanonicalDecimal decimal = some canonical ∧
      canonical.value = decimal.value ∧
      normalizeCanonicalDecimal canonical = some canonical ∧
      ∃ text, serializeCanonicalDecimal decimal = some text ∧
        Decimal.ofText text = some canonical) ∧
    ∀ other : Decimal, decimal.value = other.value ↔
      serializeCanonicalDecimal decimal = serializeCanonicalDecimal other := by
  have readBack {canonical : Decimal} (isCanonical : Canonical canonical) :
      Decimal.ofText canonical.format = some canonical := by
    obtain ⟨count, exponent, _⟩ := isCanonical.exponent
    exact ofText_format exponent
  obtain ⟨canonical, normalized, isCanonical, same⟩ := normalize_spec decimal
  constructor
  · refine ⟨canonical, normalized, same, ?_, canonical.format, ?_, readBack isCanonical⟩
    · obtain ⟨again, renormalized, isCanonicalToo, sameAgain⟩ := normalize_spec canonical
      rw [renormalized, isCanonicalToo.eq_of_value isCanonical sameAgain]
    · rw [serializeCanonicalDecimal, normalized]
      rfl
  · intro other
    obtain ⟨otherCanonical, otherNormalized, isOtherCanonical, otherSame⟩ := normalize_spec other
    simp only [serializeCanonicalDecimal, normalized, otherNormalized, Option.map_some,
      Option.some.injEq]
    constructor
    · intro equal
      rw [isCanonical.eq_of_value isOtherCanonical (same.trans (equal.trans otherSame.symm))]
    · intro texts
      have read := readBack isCanonical
      rw [texts, readBack isOtherCanonical] at read
      rw [← same, ← otherSame, Option.some.inj read]

end Snekql.Storage
