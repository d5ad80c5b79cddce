import SourceIndex.Json.Scan
import SourceIndex.Proofs.Text.Digits

set_option autoImplicit false

namespace SourceIndex.Json

theorem hexValue?_hexDigit : ∀ n < 16, hexValue? (hexDigit n) = some n := by decide

private theorem hexValue?_zero : hexValue? '0' = some 0 := by decide

theorem scanHex_hexDigit (high low : Nat) (highBound : high < 16) (lowBound : low < 16)
    (rest : List Char) :
    scanHex ('0' :: '0' :: hexDigit high :: hexDigit low :: rest) =
      .ok (16 * high + low, rest) := by
  simp only [scanHex, hexValue?_zero, hexValue?_hexDigit high highBound,
    hexValue?_hexDigit low lowBound, Nat.zero_mul, Nat.zero_add, Nat.mul_comm]

private theorem not_surrogate (code : Nat) (small : code < 0xD800) :
    isLowSurrogate code = false ∧ isHighSurrogate code = false := by
  simp only [isLowSurrogate, isHighSurrogate, Bool.and_eq_false_iff, decide_eq_false_iff_not]
  omega

theorem scanUnicode_control (c : Char) (control : c.toNat < 0x20) (rest : List Char) :
    scanUnicode
        ('0' :: '0' :: hexDigit (c.toNat / 16) :: hexDigit (c.toNat % 16) :: rest) =
      .ok (c, rest) := by
  have digits := scanHex_hexDigit (c.toNat / 16) (c.toNat % 16) (by omega) (by omega) rest
  rw [Nat.div_add_mod] at digits
  obtain ⟨notLow, notHigh⟩ := not_surrogate c.toNat (by omega)
  simp only [scanUnicode, digits, bind, Except.bind, notLow, notHigh, Bool.false_eq_true,
    ↓reduceIte, Char.ofNat_toNat]
  rfl

/-- A character is read back from its escape, or from itself, in one step. -/
theorem scanStringFrom_escaped (c : Char) (fuel : Nat) (taken rest : List Char) :
    scanStringFrom (fuel + 1) taken (escaped c ++ rest) =
      scanStringFrom fuel (c :: taken) rest := by
  unfold escaped
  by_cases quote : c = '"'
  · subst quote; rfl
  by_cases backslash : c = '\\'
  · subst backslash; rfl
  by_cases backspace : c = '\x08'
  · subst backspace; rfl
  by_cases formFeed : c = '\x0c'
  · subst formFeed; rfl
  by_cases newLine : c = '\n'
  · subst newLine; rfl
  by_cases carriage : c = '\r'
  · subst carriage; rfl
  by_cases tab : c = '\t'
  · subst tab; rfl
  simp only [beq_iff_eq, quote, backslash, backspace, formFeed, newLine, carriage, tab,
    ↓reduceIte]
  by_cases control : c.toNat < 0x20
  · have escape := scanUnicode_control c control rest
    simp only [control, ↓reduceIte, List.cons_append, List.nil_append, scanStringFrom,
      scanEscape, beq_self_eq_true, escape, show ('\\' == '"') = false from rfl,
      Bool.false_eq_true]
  · simp only [control, ↓reduceIte, List.cons_append, List.nil_append, scanStringFrom,
      beq_iff_eq, quote, backslash]

theorem scanStringFrom_flatMap (text : List Char) (fuel : Nat) (room : text.length < fuel)
    (taken rest : List Char) :
    scanStringFrom fuel taken (text.flatMap escaped ++ '"' :: rest) =
      .ok (taken.reverse ++ text, rest) := by
  induction text generalizing fuel taken with
  | nil =>
      obtain ⟨fuel, rfl⟩ := Nat.exists_eq_succ_of_ne_zero (Nat.ne_of_gt room)
      simp only [List.flatMap_nil, List.nil_append, scanStringFrom, beq_self_eq_true, ↓reduceIte,
        List.append_nil]
  | cons c text ih =>
      obtain ⟨fuel, rfl⟩ := Nat.exists_eq_succ_of_ne_zero (Nat.ne_zero_of_lt room)
      have later : text.length < fuel := Nat.lt_of_succ_lt_succ room
      rw [List.flatMap_cons, List.append_assoc, scanStringFrom_escaped, ih fuel later,
        List.reverse_cons, List.append_assoc, List.singleton_append]

theorem escaped_ne_nil (c : Char) : escaped c ≠ [] := by
  unfold escaped
  repeat' split
  all_goals exact List.cons_ne_nil _ _

theorem length_le_flatMap_escaped (text : List Char) :
    text.length ≤ (text.flatMap escaped).length := by
  induction text with
  | nil => exact Nat.le_refl _
  | cons c text ih =>
      have some := List.length_pos_iff.mpr (escaped_ne_nil c)
      rw [List.flatMap_cons, List.length_append, List.length_cons]
      omega

theorem scanString_quoted (text : String) (bound : Nat) (rest : List Char)
    (room : (quoted text.toList ++ rest).length < bound) :
    scanString bound (text.toList.flatMap escaped ++ '"' :: rest) = .ok (text, rest) := by
  have short := length_le_flatMap_escaped text.toList
  have fits : text.toList.length < bound := by
    simp only [quoted, List.length_append, List.length_cons] at room
    omega
  simp only [scanString, scanStringFrom_flatMap text.toList bound fits, List.reverse_nil,
    List.nil_append, String.ofList_toList]

theorem quoted_append (text rest : List Char) :
    quoted text ++ rest = '"' :: (text.flatMap escaped ++ '"' :: rest) := by
  simp only [quoted, List.cons_append, List.append_assoc, List.nil_append]

/-- Whether a number may end where the text begins: what follows is no part of a number. -/
def endsNumber (text : List Char) : Bool :=
  !text.head?.any fun c => isDigit c || c == '.' || c == 'e' || c == 'E'

private theorem isDigit_eq_false (c : Char) (rest : List Char) (ends : endsNumber (c :: rest)) :
    isDigit c = false := by
  simp only [endsNumber, List.head?_cons, Option.any_some, Bool.not_eq_true',
    Bool.or_eq_false_iff] at ends
  exact ends.1.1.1

theorem digit?_eq_some (c : Char) (digit : c.isDigit) :
    digit? c = some (c.toNat - '0'.toNat) := by
  have range := Char.isDigit_iff_toNat.mp digit
  have low : '0' ≤ c := range.1
  have high : c ≤ '9' := range.2
  simp only [digit?, low, high, and_self, ↓reduceIte]

theorem le_ofDigitChars (digits : List Char) (value : Nat) :
    value ≤ Nat.ofDigitChars 10 digits value := by
  induction digits generalizing value with
  | nil => exact Nat.le_of_eq Nat.ofDigitChars_nil.symm
  | cons c digits ih =>
      rw [Nat.ofDigitChars_cons]
      have step := ih (10 * value + (c.toNat - '0'.toNat))
      omega

theorem scanAfterWhole_ends (value : Nat) (rest : List Char) (ends : endsNumber rest) :
    scanAfterWhole true value rest = .ok (.integer value, rest) := by
  unfold scanAfterWhole
  split
  · exact absurd ends Bool.false_ne_true
  · exact absurd ends Bool.false_ne_true
  · exact absurd ends Bool.false_ne_true
  · rfl

/-- Digits are taken in one after the other, whatever follows them. -/
theorem scanWhole_append (positive : Bool) (digits : List Char) (value : Nat) (rest : List Char)
    (decimal : ∀ c ∈ digits, c.isDigit)
    (bound : Nat.ofDigitChars 10 digits value < significandBound) :
    scanWhole positive value (digits ++ rest) =
      scanWhole positive (Nat.ofDigitChars 10 digits value) rest := by
  induction digits generalizing value with
  | nil => rw [List.nil_append, Nat.ofDigitChars_nil]
  | cons c digits ih =>
      have digit := digit?_eq_some c (decimal c List.mem_cons_self)
      rw [Nat.ofDigitChars_cons, Nat.mul_comm] at bound ⊢
      have fits := Nat.lt_of_le_of_lt (le_ofDigitChars digits _) bound
      simp only [List.cons_append, scanWhole, digit, fits, ↓reduceIte]
      exact ih _ (fun d member => decimal d (List.mem_cons_of_mem c member)) bound

theorem scanWhole_ends (value : Nat) (rest : List Char) (ends : endsNumber rest) :
    scanWhole true value rest = .ok (.integer value, rest) := by
  cases rest with
  | nil => rfl
  | cons c rest =>
      have stops : digit? c = none := by
        simpa only [isDigit, Option.isSome_eq_false_iff, Option.isNone_iff_eq_none] using
          isDigit_eq_false c rest ends
      simp only [scanWhole, stops, scanAfterWhole_ends value (c :: rest) ends]

/-- A number that does not begin with a zero begins with its digits. -/
theorem scanNumber_append (positive : Bool) (c : Char) (digits rest : List Char)
    (decimal : ∀ d ∈ c :: digits, d.isDigit) (other : c ≠ '0')
    (bound : Nat.ofDigitChars 10 (c :: digits) 0 < significandBound) :
    scanNumber positive (c :: digits ++ rest) =
      scanWhole positive (Nat.ofDigitChars 10 (c :: digits) 0) rest := by
  have isDigit := decimal c List.mem_cons_self
  have digit := digit?_eq_some c isDigit
  have range := Char.isDigit_iff_toNat.mp isDigit
  have least : c.toNat - '0'.toNat ≠ 0 := fun zero => other (Char.toNat_inj.mp (by omega))
  obtain ⟨predecessor, leading⟩ := Nat.exists_eq_succ_of_ne_zero least
  rw [Nat.ofDigitChars_cons, Nat.mul_zero, Nat.zero_add] at bound ⊢
  rw [← scanWhole_append positive digits _ rest
    (fun d member => decimal d (List.mem_cons_of_mem c member)) bound]
  rw [leading] at digit ⊢
  simp only [List.cons_append, scanNumber, digit]

/-- The digits of a number other than zero do not start with a zero. -/
theorem toDigits_eq_cons (n : Nat) (positive : 0 < n) :
    ∃ c digits, Nat.toDigits 10 n = c :: digits ∧ c ≠ '0' := by
  induction n using Nat.strongRecOn with
  | ind n ih =>
      by_cases small : n < 10
      · refine ⟨n.digitChar, [], Nat.toDigits_of_lt_base small, ?_⟩
        revert positive
        revert small
        exact fun small => (by decide : ∀ m < 10, 0 < m → m.digitChar ≠ '0') n small
      · obtain ⟨c, digits, first, other⟩ := ih (n / 10) (by omega) (by omega)
        refine ⟨c, digits ++ [(n % 10).digitChar], ?_, other⟩
        rw [Nat.toDigits_of_base_le (by decide) (by omega), first, List.cons_append]

theorem decimalDigits_eq (n : Nat) : decimalDigits n = Nat.toDigits 10 n := by
  rw [decimalDigits, Nat.toString_eq_repr, Nat.toList_repr]

theorem scanNumber_decimalDigits (n : Nat) (bound : n < significandBound) (rest : List Char)
    (ends : endsNumber rest) :
    scanNumber true (decimalDigits n ++ rest) = .ok (.integer n, rest) := by
  rw [decimalDigits_eq]
  by_cases zero : n = 0
  · subst zero
    cases rest with
    | nil => rfl
    | cons c rest =>
        have zeroDigit : digit? '0' = some 0 := by decide
        simp only [Nat.toDigits_zero, List.cons_append, List.nil_append, scanNumber, zeroDigit,
          isDigit_eq_false c rest ends, Bool.false_eq_true, ↓reduceIte,
          scanAfterWhole_ends 0 (c :: rest) ends]
  · have decimal : ∀ c ∈ Nat.toDigits 10 n, c.isDigit := fun _ => isDigit_of_mem_toDigits
    have value : Nat.ofDigitChars 10 (Nat.toDigits 10 n) 0 = n := Nat.ofDigitChars_ten_toDigits
    obtain ⟨c, digits, first, other⟩ := toDigits_eq_cons n (Nat.pos_of_ne_zero zero)
    rw [first] at decimal value ⊢
    rw [scanNumber_append true c digits rest decimal other (value.symm ▸ bound), value,
      scanWhole_ends n rest ends]

end SourceIndex.Json
