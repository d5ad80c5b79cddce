import Mathlib.Tactic.Ring
import SourceIndex.Proofs.Json.Layouts

set_option autoImplicit false

namespace SourceIndex

/-- The significand and the power of ten that the text of a decimal is read as. A whole number is
written with a zero after its point. -/
def Decimal.parts (style : DecimalStyle) (decimal : Decimal) : Nat × Int :=
  if 0 ≤ decimal.exponent ∧
      (decimalDigits decimal.digits).length + decimal.exponent ≤ style.positional then
    (decimal.digits * 10 ^ (decimal.exponent + 1).toNat, -1)
  else (decimal.digits, decimal.exponent)

namespace Json

/-- Whether a text is empty or begins with something other than a digit. -/
def endsDigits (text : List Char) : Bool := !text.head?.any isDigit

theorem endsDigits_of_endsNumber {text : List Char} (ends : endsNumber text) :
    endsDigits text = true := by
  cases text with
  | nil => rfl
  | cons c text =>
      simp only [endsNumber, endsDigits, List.head?_cons, Option.any_some, Bool.not_eq_true',
        Bool.or_eq_false_iff] at ends ⊢
      exact ends.1.1.1

theorem digit?_of_endsDigits {c : Char} {text : List Char} (ends : endsDigits (c :: text)) :
    digit? c = none := by
  simpa only [endsDigits, isDigit, List.head?_cons, Option.any_some, Bool.not_eq_true',
    Option.isSome_eq_false_iff, Option.isNone_iff_eq_none] using ends

theorem scanFractionDigits_append (digits : List Char) (decimal : ∀ c ∈ digits, c.isDigit)
    (value count : Nat) (bound : Nat.ofDigitChars 10 digits value < significandBound)
    (rest : List Char) :
    scanFractionDigits value count (digits ++ rest) =
      scanFractionDigits (Nat.ofDigitChars 10 digits value) (count + digits.length) rest := by
  induction digits generalizing value count with
  | nil => rw [List.nil_append, Nat.ofDigitChars_nil, List.length_nil, Nat.add_zero]
  | cons d digits ih =>
      have digit := digit?_eq_some d (decimal d List.mem_cons_self)
      rw [Nat.ofDigitChars_cons, Nat.mul_comm] at bound ⊢
      have fits := Nat.lt_of_le_of_lt (le_ofDigitChars digits _) bound
      simp only [List.cons_append, scanFractionDigits, digit, fits, ↓reduceIte]
      rw [ih (fun d member => decimal d (List.mem_cons_of_mem _ member)) _ _ bound,
        List.length_cons, Nat.add_right_comm, Nat.add_assoc]

theorem scanFractionDigits_ends (value count : Nat) (rest : List Char) (ends : endsDigits rest) :
    scanFractionDigits value count rest = (value, count, false, rest) := by
  cases rest with
  | nil => rfl
  | cons c rest => simp only [scanFractionDigits, digit?_of_endsDigits ends]

theorem scanExponentDigits_append (digits : List Char) (decimal : ∀ c ∈ digits, c.isDigit)
    (value : Nat) (bound : Nat.ofDigitChars 10 digits value < exponentBound) (rest : List Char) :
    scanExponentDigits value (digits ++ rest) =
      scanExponentDigits (Nat.ofDigitChars 10 digits value) rest := by
  induction digits generalizing value with
  | nil => rw [List.nil_append, Nat.ofDigitChars_nil]
  | cons d digits ih =>
      have digit := digit?_eq_some d (decimal d List.mem_cons_self)
      rw [Nat.ofDigitChars_cons, Nat.mul_comm] at bound ⊢
      have fits := Nat.lt_of_le_of_lt (le_ofDigitChars digits _) bound
      simp only [List.cons_append, scanExponentDigits, digit, fits, ↓reduceIte]
      exact ih (fun d member => decimal d (List.mem_cons_of_mem _ member)) _ bound

theorem scanExponentDigits_ends (value : Nat) (rest : List Char) (ends : endsDigits rest) :
    scanExponentDigits value rest = (value, false, rest) := by
  cases rest with
  | nil => rfl
  | cons c rest => simp only [scanExponentDigits, digit?_of_endsDigits ends]

/-- The digits before a point: a zero, or digits that do not begin with one. -/
structure Leads (whole : List Char) : Prop where
  decimal : ∀ c ∈ whole, c.isDigit
  first : whole = ['0'] ∨ ∃ c digits, whole = c :: digits ∧ c ≠ '0'

theorem scanNumber_whole (positive : Bool) {whole : List Char} (leads : Leads whole)
    (bound : Nat.ofDigitChars 10 whole 0 < significandBound) (c : Char) (rest : List Char)
    (ends : endsDigits (c :: rest)) :
    scanNumber positive (whole ++ c :: rest) =
      scanAfterWhole positive (Nat.ofDigitChars 10 whole 0) (c :: rest) := by
  have stops := digit?_of_endsDigits ends
  rcases leads.first with rfl | ⟨d, digits, rfl, other⟩
  · have zero : digit? '0' = some 0 := by decide
    simp only [List.cons_append, List.nil_append, scanNumber, zero, isDigit, stops,
      Option.isSome_none, Bool.false_eq_true, ↓reduceIte]
    rfl
  · rw [scanNumber_append positive d digits _ leads.decimal other bound]
    simp only [scanWhole, stops]

/-- What is read after the digits of a fraction. -/
def scanAfterFraction (positive : Bool) (significand : Nat) (exponent : Int) : Scan Floating :=
  fun rest => match rest with
    | 'e' :: rest => scanExponent positive significand exponent rest
    | 'E' :: rest => scanExponent positive significand exponent rest
    | _ => scanScaled positive significand exponent rest

theorem scanAfterFraction_ends (positive : Bool) (significand : Nat) (exponent : Int)
    (rest : List Char) (ends : endsNumber rest) :
    scanAfterFraction positive significand exponent rest =
      scanScaled positive significand exponent rest := by
  unfold scanAfterFraction
  split
  · cases ends
  · cases ends
  · rfl

theorem scanFraction_run (positive : Bool) (significand : Nat) (start : Int)
    {fraction : List Char} (decimal : ∀ c ∈ fraction, c.isDigit) (some : fraction ≠ [])
    (bound : Nat.ofDigitChars 10 fraction significand < significandBound) (rest : List Char)
    (ends : endsDigits rest) :
    scanFraction positive significand start (fraction ++ rest) =
      scanAfterFraction positive (Nat.ofDigitChars 10 fraction significand)
        (start - fraction.length) rest := by
  have run := scanFractionDigits_append fraction decimal significand 0 bound rest
  rw [scanFractionDigits_ends _ _ rest ends] at run
  have count : (fraction.length == 0) = false :=
    beq_eq_false_iff_ne.mpr (mt List.length_eq_zero_iff.mp some)
  simp only [scanFraction, run, Nat.zero_add, count, Bool.false_and, Bool.false_eq_true,
    ↓reduceIte]
  rfl

def signOf (exponent : Int) : Char := if exponent < 0 then '-' else '+'

theorem scanExponent_digits (positive : Bool) (significand : Nat) (start exponent : Int)
    (small : exponent.natAbs < exponentBound) (within : (start + exponent).natAbs < exponentBound)
    (rest : List Char) (ends : endsNumber rest) :
    scanExponent positive significand start
        (signOf exponent :: (decimalDigits exponent.natAbs ++ rest)) =
      scanScaled positive significand (start + exponent) rest := by
  obtain ⟨c, digits, first, isDigit⟩ := decimalDigits_eq_cons exponent.natAbs
  have digit := digit?_eq_some c isDigit
  have value : Nat.ofDigitChars 10 digits (c.toNat - '0'.toNat) = exponent.natAbs := by
    have whole : Nat.ofDigitChars 10 (c :: digits) 0 = exponent.natAbs := by
      rw [← first, decimalDigits_eq, Nat.ofDigitChars_ten_toDigits]
    rwa [Nat.ofDigitChars_cons, Nat.mul_zero, Nat.zero_add] at whole
  have decimal (d : Char) (member : d ∈ digits) : d.isDigit :=
    isDigit_of_mem_decimalDigits _ d (first ▸ List.mem_cons_of_mem _ member)
  have run := scanExponentDigits_append digits decimal (c.toNat - '0'.toNat) (value.symm ▸ small)
    rest
  rw [value, scanExponentDigits_ends _ rest (endsDigits_of_endsNumber ends)] at run
  have same : clampExponent (start + exponent) = start + exponent := by
    rw [clampExponent]
    omega
  rw [first, List.cons_append, signOf]
  split
  · rename_i negative
    have sum : start - (exponent.natAbs : Int) = start + exponent := by omega
    simp only [scanExponent, digit, run, Bool.false_eq_true, ↓reduceIte, sum, same]
  · rename_i natural
    have sum : start + (exponent.natAbs : Int) = start + exponent := by omega
    simp only [scanExponent, digit, run, Bool.false_eq_true, ↓reduceIte, sum, same]

theorem asDouble_scanScaled {significand : Nat} {exponent : Int} {number : Floating}
    (scaled : scaled? significand exponent = some number) (positive : Bool) (rest : List Char) :
    asDouble (scanScaled positive significand exponent rest) =
      .ok (.double (signed positive number), rest) := by
  simp only [scanScaled, scaled, asDouble]

theorem scanNumber_point (positive : Bool) {whole fraction : List Char} (leads : Leads whole)
    (decimal : ∀ c ∈ fraction, c.isDigit) (given : fraction ≠ []) {significand : Nat}
    {exponent : Int} (value : Nat.ofDigitChars 10 (whole ++ fraction) 0 = significand)
    (count : exponent = -fraction.length) (bound : significand < significandBound)
    {number : Floating} (scaled : scaled? significand exponent = some number) (rest : List Char)
    (ends : endsNumber rest) :
    scanNumber positive (whole ++ '.' :: (fraction ++ rest)) =
      .ok (.double (signed positive number), rest) := by
  subst value count
  rw [Nat.ofDigitChars_append] at bound scaled
  rw [scanNumber_whole positive leads (Nat.lt_of_le_of_lt (le_ofDigitChars _ _) bound) '.' _ rfl,
    ← asDouble_scanScaled scaled positive rest]
  simp only [scanAfterWhole, scanFraction_run positive _ 0 decimal given bound rest
    (endsDigits_of_endsNumber ends), scanAfterFraction_ends _ _ _ rest ends, Int.zero_sub]

/-- The digits after the first one, behind a point if there are any. -/
def pointed : List Char → List Char
  | [] => []
  | fraction => '.' :: fraction

theorem scanNumber_exponent (positive : Bool) {c : Char} {fraction : List Char} (leads : Leads [c])
    (decimal : ∀ d ∈ fraction, d.isDigit)
    (bound : Nat.ofDigitChars 10 (c :: fraction) 0 < significandBound) (exponent : Int)
    (small : exponent.natAbs < exponentBound)
    (within : (-fraction.length + exponent).natAbs < exponentBound) {number : Floating}
    (scaled : scaled? (Nat.ofDigitChars 10 (c :: fraction) 0) (-fraction.length + exponent) =
      some number) (rest : List Char) (ends : endsNumber rest) :
    scanNumber positive (c :: (pointed fraction ++
        'e' :: signOf exponent :: (decimalDigits exponent.natAbs ++ rest))) =
      .ok (.double (signed positive number), rest) := by
  rw [← List.singleton_append, Nat.ofDigitChars_append] at bound scaled
  have first := Nat.lt_of_le_of_lt (le_ofDigitChars _ _) bound
  rw [← asDouble_scanScaled scaled positive rest]
  cases fraction with
  | nil =>
      have tail := scanExponent_digits positive (Nat.ofDigitChars 10 [c] 0) 0 exponent small
        (by simpa using within) rest ends
      refine (scanNumber_whole positive leads first 'e' _ rfl).trans ?_
      simp only [scanAfterWhole, tail, Nat.ofDigitChars_nil, List.length_nil, Int.natCast_zero,
        Int.neg_zero]
  | cons d fraction =>
      have tail := scanExponent_digits positive
        (Nat.ofDigitChars 10 (d :: fraction) (Nat.ofDigitChars 10 [c] 0))
        (-(d :: fraction).length) exponent small within rest ends
      have run := scanFraction_run positive (Nat.ofDigitChars 10 [c] 0) 0 decimal
        (List.cons_ne_nil d fraction) bound
        ('e' :: signOf exponent :: (decimalDigits exponent.natAbs ++ rest)) rfl
      refine (scanNumber_whole positive leads first '.' _ rfl).trans ?_
      simp only [scanAfterWhole]
      exact congrArg asDouble
        (run.trans (by simpa only [scanAfterFraction, Int.zero_sub] using tail))

section

variable (positive : Bool) {c : Char} {later : List Char} (decimal : ∀ d ∈ c :: later, d.isDigit)
  {number : Floating} (rest : List Char) (ends : endsNumber rest)

include decimal ends

theorem scanNumber_whole_form (other : c ≠ '0') (zeros : Nat)
    (bound : Nat.ofDigitChars 10 (c :: later) 0 * 10 ^ (zeros + 1) < significandBound)
    (scaled : scaled? (Nat.ofDigitChars 10 (c :: later) 0 * 10 ^ (zeros + 1)) (-1) = some number) :
    scanNumber positive (c :: later ++ List.replicate zeros '0' ++ ['.', '0'] ++ rest) =
      .ok (.double (signed positive number), rest) := by
  have value : Nat.ofDigitChars 10 (c :: later ++ List.replicate zeros '0' ++ ['0']) 0 =
      Nat.ofDigitChars 10 (c :: later) 0 * 10 ^ (zeros + 1) := by
    rw [Nat.ofDigitChars_append, Nat.ofDigitChars_append, Nat.ofDigitChars_replicate_zero,
      Nat.ofDigitChars_cons, Nat.ofDigitChars_nil, Nat.sub_self, Nat.add_zero, ← Nat.mul_assoc,
      ← Nat.pow_succ', Nat.mul_comm]
  have leads : Leads (c :: later ++ List.replicate zeros '0') := by
    refine ⟨fun d member => ?_, .inr ⟨c, _, rfl, other⟩⟩
    rcases List.mem_append.mp member with inside | zero
    · exact decimal d inside
    · rw [List.eq_of_mem_replicate zero]
      rfl
  have point := scanNumber_point positive leads (List.forall_mem_singleton.mpr rfl)
    (List.cons_ne_nil '0' []) value rfl bound scaled rest ends
  simpa only [List.append_assoc, List.cons_append, List.nil_append] using point

theorem scanNumber_inside_form (other : c ≠ '0') (point : Nat) (after : 0 < point)
    (inside : point < (c :: later).length)
    (bound : Nat.ofDigitChars 10 (c :: later) 0 < significandBound)
    (scaled : scaled? (Nat.ofDigitChars 10 (c :: later) 0) (point - (c :: later).length) =
      some number) :
    scanNumber positive ((c :: later).take point ++ ['.'] ++ (c :: later).drop point ++ rest) =
      .ok (.double (signed positive number), rest) := by
  have leads : Leads ((c :: later).take point) := by
    refine ⟨fun d member => decimal d (List.mem_of_mem_take member), .inr ?_⟩
    obtain ⟨count, rfl⟩ := Nat.exists_eq_succ_of_ne_zero (Nat.ne_zero_of_lt after)
    exact ⟨c, _, List.take_succ_cons, other⟩
  have given : (c :: later).drop point ≠ [] := by
    rw [Ne, List.drop_eq_nil_iff]
    omega
  have count : (point - (c :: later).length : Int) = -((c :: later).drop point).length := by
    rw [List.length_drop]
    omega
  have pointed := scanNumber_point positive leads
    (fun d member => decimal d (List.mem_of_mem_drop member)) given
    (congrArg (Nat.ofDigitChars 10 · 0) (List.take_append_drop point (c :: later))) count bound
    scaled rest ends
  simpa only [List.append_assoc, List.cons_append, List.nil_append] using pointed

/-- Digits after a zero and a point, perhaps with more zeros before them. -/
theorem scanNumber_below_form (zeros : Nat)
    (bound : Nat.ofDigitChars 10 (c :: later) 0 < significandBound)
    (scaled : scaled? (Nat.ofDigitChars 10 (c :: later) 0) (-(zeros + (c :: later).length : Nat)) =
      some number) :
    scanNumber positive (['0', '.'] ++ List.replicate zeros '0' ++ (c :: later) ++ rest) =
      .ok (.double (signed positive number), rest) := by
  have zero : Nat.ofDigitChars 10 ['0'] 0 = 0 := rfl
  have value : Nat.ofDigitChars 10 (['0'] ++ (List.replicate zeros '0' ++ c :: later)) 0 =
      Nat.ofDigitChars 10 (c :: later) 0 := by
    rw [Nat.ofDigitChars_append, Nat.ofDigitChars_append, Nat.ofDigitChars_replicate_zero, zero,
      Nat.mul_zero]
  have length : (List.replicate zeros '0' ++ c :: later).length = zeros + (c :: later).length := by
    rw [List.length_append, List.length_replicate]
  have digits (d : Char) (member : d ∈ List.replicate zeros '0' ++ c :: later) : d.isDigit := by
    rcases List.mem_append.mp member with zero | inside
    · rw [List.eq_of_mem_replicate zero]
      rfl
    · exact decimal d inside
  have leads : Leads ['0'] := ⟨List.forall_mem_singleton.mpr rfl, .inl rfl⟩
  have point := scanNumber_point positive leads digits
    (List.append_ne_nil_of_right_ne_nil _ (List.cons_ne_nil c later)) value (by rw [length]) bound
    scaled rest ends
  simpa only [List.append_assoc, List.cons_append, List.nil_append] using point

end

theorem scanNumber_render (positive : Bool) (style : DecimalStyle) (decimal : Decimal)
    (given : 0 < decimal.digits) (fits : (decimal.parts style).1 < significandBound)
    (small : decimal.exponent.natAbs < 2 ^ 30) {number : Floating}
    (scaled : scaled? (decimal.parts style).1 (decimal.parts style).2 = some number)
    (rest : List Char) (ends : endsNumber rest) :
    scanNumber positive (decimal.render style ++ rest) =
      .ok (.double (signed positive number), rest) := by
  obtain ⟨c, later, first, other⟩ := toDigits_eq_cons decimal.digits given
  rw [← decimalDigits_eq] at first
  have isDigit (d : Char) (member : d ∈ c :: later) : d.isDigit :=
    isDigit_of_mem_decimalDigits _ d (first ▸ member)
  have value : decimal.digits = Nat.ofDigitChars 10 (c :: later) 0 := by
    rw [← first, decimalDigits_eq, Nat.ofDigitChars_ten_toDigits]
  simp only [Decimal.parts, first] at fits scaled
  simp only [Decimal.render, first]
  by_cases whole : 0 ≤ decimal.exponent ∧
      (c :: later).length + decimal.exponent ≤ style.positional
  · rw [if_pos whole] at fits scaled ⊢
    rw [show (decimal.exponent + 1).toNat = decimal.exponent.toNat + 1 by omega, value]
      at fits scaled
    exact scanNumber_whole_form positive isDigit rest ends other _ fits scaled
  rw [if_neg whole] at fits scaled ⊢
  rw [value] at fits scaled
  by_cases inside : 0 < (c :: later).length + decimal.exponent ∧
      (c :: later).length + decimal.exponent ≤ style.positional
  · rw [if_pos inside]
    refine scanNumber_inside_form positive isDigit rest ends other _ (by omega) (by omega) fits ?_
    rw [← scaled]
    congr 1
    omega
  rw [if_neg inside]
  by_cases below : -style.zeros < (c :: later).length + decimal.exponent ∧
      (c :: later).length + decimal.exponent ≤ 0
  · rw [if_pos below]
    refine scanNumber_below_form positive isDigit rest ends _ fits ?_
    rw [← scaled]
    congr 1
    omega
  rw [if_neg below]
  have few : (c :: later).length ≤ 20 := by
    rw [← first, decimalDigits_eq]
    exact (Nat.length_toDigits_le_iff (by decide) (by decide)).mpr
      (Nat.lt_trans (value ▸ fits) (by decide))
  have bound : exponentBound = 2 ^ 31 := rfl
  rw [List.length_cons] at few ⊢
  have leads : Leads [c] :=
    ⟨List.forall_mem_singleton.mpr (isDigit c List.mem_cons_self), .inr ⟨c, [], rfl, other⟩⟩
  have shifted : scaled? (Nat.ofDigitChars 10 (c :: later) 0)
      (-later.length + ((later.length + 1 : Nat) + decimal.exponent - 1)) = some number := by
    rw [← scaled]
    congr 1
    omega
  have form := scanNumber_exponent positive leads
    (fun d member => isDigit d (List.mem_cons_of_mem c member)) fits _ (by omega) (by omega) shifted
    rest ends
  rw [← form]
  cases later <;> simp only [pointed, signOf, List.take_succ_cons, List.take_zero,
    List.drop_succ_cons, List.drop_zero, List.append_assoc, List.cons_append, List.nil_append]

end Json

end SourceIndex
