import SourceIndex.Proofs.Json.Members
import SourceIndex.Proofs.Number.Recovery

set_option autoImplicit false

namespace SourceIndex

namespace Json

/-- What the digits of a number of 32 bits are read as, by its mantissa and exponent. -/
def readingOf (mantissa : Nat) (exponent : Int) : Floating :=
  if mantissa = 0 then .zero false
  else
    let parts := (FloatFormat.single.shortest mantissa exponent).parts .single
    (scaled? parts.1 parts.2).getD (.zero false)

/-- What the text of a number of 32 bits is read as. -/
def readingOfSingle : Floating → Json
  | .infinite _ => .null
  | .finite negative mantissa exponent =>
    .double (signed (!negative) (readingOf mantissa exponent))

theorem convert_signed (format : FloatFormat) (negative : Bool) {number rounded : Floating}
    (magnitude : format.convert number = rounded) :
    format.convert (signed (!negative) number) = if negative then rounded.negate else rounded := by
  subst magnitude
  cases negative
  · rfl
  · exact format.convert_negate number

/-- The digits of a number: zero is written as a whole number, others as their shortest decimals. -/
def digitsOf (mantissa : Nat) (exponent : Int) : List Char :=
  if mantissa == 0 then ['0', '.', '0']
  else (FloatFormat.single.shortest mantissa exponent).render .single

/-- A mantissa and an exponent of a finite number. -/
inductive FiniteSingle : Nat → Int → Prop
  | zero : FiniteSingle 0 0
  | some (mantissa : Nat) (exponent : Int)
      (canonical : FloatFormat.single.Canonical mantissa exponent) : FiniteSingle mantissa exponent

section

variable {mantissa : Nat} {exponent : Int} (finite : FiniteSingle mantissa exponent)

include finite

theorem convert_readingOf :
    FloatFormat.single.convert (readingOf mantissa exponent) = .finite false mantissa exponent := by
  cases finite with
  | zero => rfl
  | some mantissa exponent canonical =>
      have recovers := FloatFormat.recovers_shortest canonical
      obtain ⟨number, scaled, rounded⟩ := Option.map_eq_some_iff.mp recovers.back
      rw [readingOf, if_neg canonical.some.ne']
      simp only [scaled, Option.getD_some, rounded]

theorem scanNumber_digitsOf (positive : Bool) (rest : List Char) (ends : endsNumber rest) :
    scanNumber positive (digitsOf mantissa exponent ++ rest) =
      .ok (.double (signed positive (readingOf mantissa exponent)), rest) := by
  cases finite with
  | zero =>
      have leads : Leads ['0'] := ⟨List.forall_mem_singleton.mpr rfl, .inl rfl⟩
      exact scanNumber_point positive leads (List.forall_mem_singleton.mpr rfl)
        (List.cons_ne_nil '0' []) rfl rfl (by decide) (by decide +kernel) rest ends
  | some mantissa exponent canonical =>
      have recovers := FloatFormat.recovers_shortest canonical
      obtain ⟨number, scaled, -⟩ := Option.map_eq_some_iff.mp recovers.back
      have other := canonical.some.ne'
      have fits := recovers.fits
      have small := recovers.small
      have bound : significandBound = 2 ^ 64 := rfl
      rw [readingOf, if_neg other, digitsOf, if_neg (mt beq_iff_eq.mp other)]
      simp only [scaled, Option.getD_some]
      exact scanNumber_render positive .single _ recovers.given (by omega) (by omega) scaled rest
        ends

theorem digitsOf_eq_cons : ∃ c later, digitsOf mantissa exponent = c :: later ∧ c.isDigit := by
  cases finite with
  | zero => exact ⟨'0', _, rfl, rfl⟩
  | some mantissa exponent canonical =>
      rw [digitsOf, if_neg (mt beq_iff_eq.mp canonical.some.ne')]
      exact Decimal.render_eq_cons _ _

theorem readWith_digitsOf (bound : Nat) (inner : Option (Scan Json)) (negative : Bool)
    (layout : Layout) (rest : List Char) (ends : endsNumber rest) :
    readWith bound inner
        ((Json.single (.finite negative mantissa exponent)).render layout ++ rest) =
      .ok (readingOfSingle (.finite negative mantissa exponent), rest) := by
  have text : (Json.single (.finite negative mantissa exponent)).render layout =
      (if negative then ['-'] else []) ++ digitsOf mantissa exponent := by
    simp only [render, renderFloating, Floating.render?, digitsOf]
    split <;> rfl
  have number := scanNumber_digitsOf finite (!negative) rest ends
  rw [text]
  cases negative
  · obtain ⟨c, later, first, digit⟩ := digitsOf_eq_cons finite
    rw [first, List.cons_append] at number
    simp only [Bool.false_eq_true, ↓reduceIte, List.nil_append, first, List.cons_append]
    rw [readWith_digit bound inner c digit, readingOfSingle]
    exact number
  · simp only [↓reduceIte, List.cons_append, List.nil_append, readWith, skipSpaces_cons '-' _ rfl,
      show ('-' == 'n') = false from rfl, show ('-' == 't') = false from rfl,
      show ('-' == 'f') = false from rfl, beq_self_eq_true, Bool.false_eq_true, readingOfSingle]
    exact number

end

/-- A number of 32 bits is read back from its text as its reading. -/
theorem Rereads.single (depth : Nat) {value : Floating}
    (within : FloatFormat.single.Within value) :
    Rereads depth (.single value) (readingOfSingle value) := by
  have finite {mantissa : Nat} {exponent : Int} (finite : FiniteSingle mantissa exponent)
      (negative : Bool) : Rereads depth (.single (.finite negative mantissa exponent))
        (readingOfSingle (.finite negative mantissa exponent)) :=
    .scalar depth _ _ fun layout bound inner => ⟨readWith_skipSpaces bound inner,
      fun rest _ ends => readWith_digitsOf finite bound inner negative layout rest ends⟩
  cases within with
  | infinite negative =>
      exact .scalar depth _ _ fun _ bound inner =>
        ⟨readWith_skipSpaces bound inner, fun _ _ _ => rfl⟩
  | zero negative => exact finite .zero negative
  | finite negative mantissa exponent canonical =>
      exact finite (.some mantissa exponent canonical) negative

theorem readingOfSingle_finite {value : Floating} (within : FloatFormat.single.Within value)
    (finite : value.isInfinite = false) :
    ∃ number, readingOfSingle value = .double number ∧
      FloatFormat.single.convert number = value := by
  cases within with
  | infinite negative => cases finite
  | zero negative =>
      refine ⟨_, rfl, ?_⟩
      rw [convert_signed _ negative (convert_readingOf .zero)]
      cases negative <;> rfl
  | finite negative mantissa exponent canonical =>
      refine ⟨_, rfl, ?_⟩
      rw [convert_signed _ negative (convert_readingOf (.some _ _ canonical))]
      cases negative <;> rfl

theorem readingOfSingle_infinite {value : Floating} (infinite : value.isInfinite = true) :
    readingOfSingle value = .null := by
  cases value with
  | finite => cases infinite
  | infinite negative => rfl

end Json

end SourceIndex
