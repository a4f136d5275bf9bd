import Mathlib.Data.Nat.Digits.Defs
import Mathlib.Data.List.Basic

/-!
# Decimal numerals

Texts of decimal digits and the numbers they stand for. Texts of the same length are ordered as
their numbers are, so that padded numerals can be compared character by character.
-/

namespace Snekql.Numerals

abbrev Text := List Char

/-- Every character is a decimal digit. -/
def AllDigits (text : Text) : Prop := ∀ char ∈ text, char.isDigit = true

/-- The number of a text of digits. -/
def numeral (text : Text) : Nat := Nat.ofDigitChars 10 text 0

/-- The digits of a number, without leading zeros. -/
def digits (number : Nat) : Text := Nat.toDigits 10 number

def zeros (count : Nat) : Text := List.replicate count '0'

/-- The digits of a number, filled up with zeros on the left. -/
def padded (width number : Nat) : Text :=
  zeros (width - (digits number).length) ++ digits number

theorem AllDigits.append {first second : Text} (digits : AllDigits first)
    (others : AllDigits second) : AllDigits (first ++ second) := by
  intro char listed
  obtain before | after := List.mem_append.mp listed
  · exact digits char before
  · exact others char after

theorem allDigits_zeros (count : Nat) : AllDigits (zeros count) := by
  intro char listed
  rw [List.eq_of_mem_replicate listed]
  rfl

theorem allDigits_digits (number : Nat) : AllDigits (digits number) :=
  fun _ listed => Nat.isDigit_of_mem_toDigits (by decide) (by decide) listed

theorem digits_ne_nil (number : Nat) : digits number ≠ [] := Nat.toDigits_ne_nil

theorem numeral_digits (number : Nat) : numeral (digits number) = number :=
  Nat.ofDigitChars_ten_toDigits

theorem numeral_append (first second : Text) :
    numeral (first ++ second) = numeral first * 10 ^ second.length + numeral second := by
  rw [numeral, Nat.ofDigitChars_append, Nat.ofDigitChars_eq_ofDigitChars_zero, Nat.mul_comm]
  rfl

theorem numeral_zeros (count : Nat) : numeral (zeros count) = 0 := by
  induction count with
  | zero => rfl
  | succ count ih =>
    have split : zeros (count + 1) = ['0'] ++ zeros count := rfl
    have zero : numeral ['0'] = 0 := by decide
    rw [split, numeral_append, ih, zero, Nat.zero_mul]

theorem numeral_padded (width number : Nat) : numeral (padded width number) = number := by
  rw [padded, numeral_append, numeral_zeros, Nat.zero_mul, Nat.zero_add, numeral_digits]

theorem digit_value {char : Char} (digit : char.isDigit = true) :
    48 ≤ char.toNat ∧ char.toNat ≤ 57 := by
  simp only [Char.isDigit, Bool.and_eq_true, decide_eq_true_eq, ge_iff_le,
    UInt32.le_iff_toNat_le] at digit
  exact digit

theorem numeral_singleton (char : Char) : numeral [char] = char.toNat - 48 := by
  rw [numeral, Nat.ofDigitChars_eq_foldl]
  simp

theorem numeral_cons (char : Char) (rest : Text) :
    numeral (char :: rest) = (char.toNat - 48) * 10 ^ rest.length + numeral rest := by
  rw [← numeral_singleton]
  exact numeral_append [char] rest

theorem numeral_lt {text : Text} (digits : AllDigits text) :
    numeral text < 10 ^ text.length := by
  induction text with
  | nil => decide
  | cons char rest ih =>
    obtain ⟨low, high⟩ := digit_value (digits char List.mem_cons_self)
    have small := ih (fun other listed =>
      digits other (List.mem_cons_of_mem _ listed))
    rw [numeral_cons, List.length_cons, Nat.pow_succ]
    have bound : (char.toNat - 48) * 10 ^ rest.length ≤ 9 * 10 ^ rest.length :=
      Nat.mul_le_mul_right _ (by omega)
    omega

theorem allDigits_padded (width number : Nat) : AllDigits (padded width number) :=
  (allDigits_zeros _).append (allDigits_digits number)

theorem length_padded {width number : Nat} (positive : 0 < width) (small : number < 10 ^ width) :
    (padded width number).length = width := by
  have short : (digits number).length ≤ width := Nat.toDigits_length 10 number width positive small
  rw [padded, List.length_append, zeros, List.length_replicate]
  omega

/-! ## The order of texts -/

/-- Texts are compared character by character, as Python and SQL compare them. -/
def Before (first second : Text) : Prop := List.Lex (· < ·) first second

theorem char_lt_iff {char other : Char} : char < other ↔ char.toNat < other.toNat :=
  UInt32.lt_iff_toNat_lt

theorem before_cons {char other : Char} {first second : Text} :
    Before (char :: first) (other :: second) ↔
      char < other ∨ char = other ∧ Before first second := by
  constructor
  · intro before
    cases before with
    | rel smaller => exact .inl smaller
    | cons rest => exact .inr ⟨rfl, rest⟩
  · rintro (smaller | ⟨rfl, rest⟩)
    · exact .rel smaller
    · exact .cons rest

theorem not_before_self (text : Text) : ¬Before text text := by
  induction text with
  | nil =>
    intro before
    cases before
  | cons char rest ih =>
    rw [before_cons]
    rintro (smaller | ⟨_, before⟩)
    · exact Nat.lt_irrefl _ (char_lt_iff.mp smaller)
    · exact ih before

/-- Behind texts of the same length, the first difference decides. -/
theorem before_append {first second : Text} (same : first.length = second.length)
    (rest others : Text) :
    Before (first ++ rest) (second ++ others) ↔
      Before first second ∨ first = second ∧ Before rest others := by
  induction first generalizing second with
  | nil =>
    cases List.length_eq_zero_iff.mp same.symm
    have never : ¬Before ([] : Text) [] := not_before_self []
    simp [never]
  | cons char first ih =>
    cases second with
    | nil => cases same
    | cons other second =>
      have shorter : first.length = second.length := Nat.succ.inj same
      rw [List.cons_append, List.cons_append, before_cons, before_cons,
        ih shorter, List.cons.injEq]
      tauto

/-- Texts of digits of one length are ordered as their numbers. -/
theorem before_iff_numeral {first second : Text} (digits : AllDigits first)
    (others : AllDigits second) (same : first.length = second.length) :
    Before first second ↔ numeral first < numeral second := by
  induction first generalizing second with
  | nil =>
    cases List.length_eq_zero_iff.mp same.symm
    exact iff_of_false (not_before_self []) (Nat.lt_irrefl _)
  | cons char first ih =>
    cases second with
    | nil => cases same
    | cons other second =>
      have shorter : first.length = second.length := Nat.succ.inj same
      have firstDigits : AllDigits first :=
        fun char listed => digits char (List.mem_cons_of_mem _ listed)
      have secondDigits : AllDigits second :=
        fun char listed => others char (List.mem_cons_of_mem _ listed)
      obtain ⟨low, high⟩ := digit_value (digits char List.mem_cons_self)
      obtain ⟨otherLow, otherHigh⟩ := digit_value (others other List.mem_cons_self)
      have firstSmall := numeral_lt firstDigits
      have secondSmall := numeral_lt secondDigits
      rw [before_cons, ih firstDigits secondDigits shorter, numeral_cons,
        numeral_cons, ← shorter]
      rw [← shorter] at secondSmall
      rw [char_lt_iff]
      obtain smaller | equal | larger := Nat.lt_trichotomy char.toNat other.toNat
      · have step : (char.toNat - 48 + 1) * 10 ^ first.length ≤
            (other.toNat - 48) * 10 ^ first.length := Nat.mul_le_mul_right _ (by omega)
        rw [Nat.add_mul, Nat.one_mul] at step
        exact iff_of_true (.inl smaller) (by omega)
      · obtain rfl : char = other := Char.toNat_inj.mp equal
        simp
      · have step : (other.toNat - 48 + 1) * 10 ^ first.length ≤
            (char.toNat - 48) * 10 ^ first.length := Nat.mul_le_mul_right _ (by omega)
        rw [Nat.add_mul, Nat.one_mul] at step
        refine iff_of_false ?_ (by omega)
        rintro (smaller | ⟨rfl, _⟩) <;> omega

theorem padded_before_iff {width first second : Nat} (positive : 0 < width)
    (firstSmall : first < 10 ^ width) (secondSmall : second < 10 ^ width) :
    Before (padded width first) (padded width second) ↔ first < second := by
  rw [before_iff_numeral (allDigits_padded _ _) (allDigits_padded _ _)
      ((length_padded positive firstSmall).trans (length_padded positive secondSmall).symm),
    numeral_padded, numeral_padded]

end Snekql.Numerals
