import Mathlib.Data.List.Induction
import SourceIndex.Chunk

set_option autoImplicit false

namespace SourceIndex

theorem isDigit_of_mem_toDigits {number : Nat} {c : Char} (member : c ∈ Nat.toDigits 10 number) :
    c.isDigit :=
  Nat.isDigit_of_mem_toDigits (by decide) (by decide) member

theorem digitValue?_eq (c : Char) :
    digitValue? c = if c.isDigit then some (c.toNat - '0'.toNat) else none := by
  have range : c.isDigit = true ↔ '0' ≤ c ∧ c ≤ '9' := Char.isDigit_iff_toNat
  rw [digitValue?]
  exact if_congr range.symm rfl rfl

/-- Digits are read one after the other, and what is no digit spoils the number. -/
theorem foldl_digitValue? (digits : List Char) (value : Option Nat) :
    digits.foldl (fun value c => do return (← value) * 10 + (← digitValue? c)) value =
      if digits.all Char.isDigit then value.map (Nat.ofDigitChars 10 digits) else none := by
  induction digits generalizing value with
  | nil => cases value <;> rfl
  | cons c digits ih =>
      rw [List.foldl_cons, ih, List.all_cons, digitValue?_eq]
      cases c.isDigit with
      | false => cases value <;> simp
      | true =>
          cases value with
          | none => simp
          | some value => simp [Nat.ofDigitChars_cons, Nat.mul_comm]

theorem decimalValue?_eq_some_iff (digits : List Char) (number : Nat) :
    decimalValue? digits = some number ↔
      digits ≠ [] ∧ (∀ c ∈ digits, c.isDigit) ∧ Nat.ofDigitChars 10 digits 0 = number := by
  rw [decimalValue?, foldl_digitValue?, ← List.all_eq_true]
  cases digits with
  | nil => simp
  | cons c digits =>
      rw [if_neg (by simp)]
      cases (c :: digits).all Char.isDigit <;> simp

theorem value_lt {c : Char} (digit : c.isDigit) : c.toNat - '0'.toNat < 10 := by
  have high : c.toNat ≤ '0'.toNat + 9 := (Char.isDigit_iff_toNat.mp digit).2
  omega

theorem toDigits_value {c : Char} (digit : c.isDigit) :
    Nat.toDigits 10 (c.toNat - '0'.toNat) = [c] := by
  have spelled : ∀ value < 10, Nat.digitChar value = Char.ofNat (value + '0'.toNat) := by decide
  have low := (Char.isDigit_iff_toNat.mp digit).1
  rw [Nat.toDigits_of_lt_base (value_lt digit), spelled _ (value_lt digit),
    Nat.sub_add_cancel low, Char.ofNat_toNat]

theorem exists_zeros (digits : List Char) (some : digits ≠ [])
    (decimal : ∀ c ∈ digits, c.isDigit) : ∃ zeros,
      digits = List.replicate zeros '0' ++ Nat.toDigits 10 (Nat.ofDigitChars 10 digits 0) := by
  induction digits using List.reverseRecOn with
  | nil => exact absurd rfl some
  | append_singleton digits c ih =>
      have digit := decimal c List.mem_concat_self
      rw [Nat.ofDigitChars_append, Nat.ofDigitChars_cons, Nat.ofDigitChars_nil]
      by_cases alone : digits = []
      · refine ⟨0, ?_⟩
        rw [alone, Nat.ofDigitChars_nil, Nat.mul_zero, Nat.zero_add, toDigits_value digit]
        rfl
      · obtain ⟨zeros, padded⟩ := ih alone fun d inside =>
          decimal d (List.mem_append_left [c] inside)
        rcases Nat.eq_zero_or_pos (Nat.ofDigitChars 10 digits 0) with zero | positive
        -- Digits of zero are zeros, all of which then stand before the new digit.
        · refine ⟨zeros + 1, ?_⟩
          rw [zero, Nat.toDigits_zero, ← List.replicate_succ'] at padded
          rw [zero, Nat.mul_zero, Nat.zero_add, toDigits_value digit, ← padded]
        · refine ⟨zeros, ?_⟩
          rw [← Nat.toDigits_append_toDigits (by decide) positive (value_lt digit),
            toDigits_value digit, ← List.append_assoc, ← padded]

/-- The digits of a number, after zeros and a plus sign or none. -/
def numeral (signed : Bool) (zeros number : Nat) : List Char :=
  (if signed then ['+'] else []) ++ (List.replicate zeros '0' ++ Nat.toDigits 10 number)

theorem isDigit_of_mem_padded {zeros number : Nat} {c : Char}
    (member : c ∈ List.replicate zeros '0' ++ Nat.toDigits 10 number) : c.isDigit := by
  rcases List.mem_append.mp member with zero | digit
  · rw [(List.mem_replicate.mp zero).2]
    rfl
  · exact isDigit_of_mem_toDigits digit

theorem decimalValue?_eq_some_iff_padded (digits : List Char) (number : Nat) :
    decimalValue? digits = some number ↔
      ∃ zeros, digits = List.replicate zeros '0' ++ Nat.toDigits 10 number := by
  rw [decimalValue?_eq_some_iff]
  constructor
  · rintro ⟨some, decimal, rfl⟩
    exact exists_zeros digits some decimal
  · rintro ⟨zeros, rfl⟩
    refine ⟨List.append_ne_nil_of_right_ne_nil _ Nat.toDigits_ne_nil,
      fun c => isDigit_of_mem_padded, ?_⟩
    rw [Nat.ofDigitChars_append, Nat.ofDigitChars_replicate_zero, Nat.mul_zero,
      Nat.ofDigitChars_ten_toDigits]

/-- A text is read as a number that fits a word if and only if it is a numeral of it. -/
theorem wordOf?_eq_some_iff (text : String) (number : Nat) : wordOf? text = some number ↔
    number < wordBound ∧ ∃ signed zeros, text.toList = numeral signed zeros number := by
  have unsigned (zeros : Nat) (rest : List Char) :
      List.replicate zeros '0' ++ Nat.toDigits 10 number ≠ '+' :: rest := by
    intro signed
    have digit : '+'.isDigit = true := isDigit_of_mem_padded (signed ▸ List.mem_cons_self)
    exact absurd digit (by decide)
  rw [wordOf?, Option.filter_eq_some_iff, decide_eq_true_iff, and_comm]
  refine and_congr Iff.rfl ?_
  split
  · rename_i rest signed
    rw [decimalValue?_eq_some_iff_padded, signed]
    constructor
    · rintro ⟨zeros, rfl⟩
      exact ⟨true, zeros, rfl⟩
    · rintro ⟨sign, zeros, same⟩
      cases sign with
      | true => exact ⟨zeros, (List.cons.inj same).2⟩
      | false => exact absurd same.symm (unsigned zeros rest)
  · rename_i plain
    rw [decimalValue?_eq_some_iff_padded]
    constructor
    · rintro ⟨zeros, same⟩
      exact ⟨false, zeros, same⟩
    · rintro ⟨sign, zeros, same⟩
      cases sign with
      | true => exact absurd same (plain _)
      | false => exact ⟨zeros, same⟩

theorem wordOf?_toString (number : Nat) (fits : number < wordBound) :
    wordOf? (toString number) = some number := by
  rw [wordOf?_eq_some_iff]
  exact ⟨fits, false, 0, by rw [Nat.toString_eq_repr, Nat.toList_repr]; rfl⟩

end SourceIndex
