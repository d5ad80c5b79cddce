/-
Binary floating-point numbers in exact arithmetic: a number is a mantissa and a power of two, and
the result of an operation is the nearest number of its format, an even one on a tie.
-/

set_option autoImplicit false

namespace SourceIndex

/-- A binary format: the bits of a mantissa, and the exponents of the last place of the least
positive number and of the greatest one. -/
structure FloatFormat where
  precision : Nat
  least : Int
  greatest : Int
  /-- The bits of the exponent where numbers are written as words. -/
  exponentBits : Nat

/-- Numbers of 64 bits. -/
def FloatFormat.double : FloatFormat := ⟨53, -1074, 971, 11⟩

/-- Numbers of 32 bits. -/
def FloatFormat.single : FloatFormat := ⟨24, -149, 104, 8⟩

/-- A number `mantissa * 2 ^ exponent` with a sign, or an infinity. -/
inductive Floating where
  | finite (negative : Bool) (mantissa : Nat) (exponent : Int)
  | infinite (negative : Bool)
deriving DecidableEq, Repr, Inhabited

namespace Floating

def zero (negative : Bool) : Floating := .finite negative 0 0

def negate : Floating → Floating
  | finite negative mantissa exponent => finite (!negative) mantissa exponent
  | infinite negative => infinite (!negative)

def isInfinite : Floating → Bool
  | finite .. => false
  | infinite _ => true

def isZero : Floating → Bool
  | finite _ mantissa _ => mantissa == 0
  | infinite _ => false

end Floating

/-- The quotient of `above / below` and `2 ^ exponent` as a fraction of naturals. -/
def scaleDown (above below : Nat) (exponent : Int) : Nat × Nat :=
  (above * Nat.pow 2 (-exponent).toNat, below * Nat.pow 2 exponent.toNat)

/-- The natural nearest to a fraction, an even one on a tie. -/
def nearest (above below : Nat) : Nat :=
  let whole := above / below
  let rest := above % below
  if 2 * rest > below ∨ (2 * rest = below ∧ whole % 2 = 1) then whole + 1 else whole

namespace FloatFormat

/-- The exponent of the last place of the format's numbers near a positive fraction. -/
def placeOf (format : FloatFormat) (above below : Nat) : Int :=
  let guess : Int := Nat.log2 above - Nat.log2 below - format.precision
  let (top, bottom) := scaleDown above below guess
  max format.least (if top < bottom * Nat.pow 2 format.precision then guess else guess + 1)

/-- The number of the format nearest to the fraction `above / below`. -/
def round (format : FloatFormat) (negative : Bool) (above below : Nat) : Floating :=
  if above == 0 then .zero negative
  else
    let place := format.placeOf above below
    let (top, bottom) := scaleDown above below place
    let mantissa := nearest top bottom
    if mantissa == 0 then .zero negative
    else
      let (mantissa, place) :=
        if mantissa == Nat.pow 2 format.precision then (mantissa / 2, place + 1)
        else (mantissa, place)
      if place > format.greatest then .infinite negative else .finite negative mantissa place

def ofNat (format : FloatFormat) (n : Nat) : Floating := format.round false n 1

def ofInt (format : FloatFormat) (n : Int) : Floating := format.round (n < 0) n.natAbs 1

def convert (format : FloatFormat) : Floating → Floating
  | .infinite negative => .infinite negative
  | .finite negative mantissa exponent =>
    format.round negative (mantissa * Nat.pow 2 exponent.toNat) (Nat.pow 2 (-exponent).toNat)

def multiply (format : FloatFormat) : Floating → Floating → Floating
  | .finite _ m p, .finite _ n q =>
    format.round false (m * n * Nat.pow 2 (p + q).toNat) (Nat.pow 2 (-(p + q)).toNat)
  | _, _ => .infinite false

/-- The quotient of two numbers that are not negative, the second one finite and not zero. -/
def divide (format : FloatFormat) : Floating → Floating → Floating
  | .finite _ m p, .finite _ n q =>
    format.round false (m * Nat.pow 2 (p - q).toNat) (n * Nat.pow 2 (q - p).toNat)
  | _, _ => .infinite false

/-- The word that holds a number: its sign, its exponent and its mantissa, from the top. -/
def toWord (format : FloatFormat) (number : Floating) : Nat :=
  let fraction := Nat.pow 2 (format.precision - 1)
  let sign (negative : Bool) := if negative then fraction * Nat.pow 2 format.exponentBits else 0
  match number with
  | .infinite negative => sign negative + fraction * (Nat.pow 2 format.exponentBits - 1)
  | .finite negative mantissa exponent =>
    if mantissa < fraction then sign negative + mantissa
    else sign negative + fraction * ((exponent - format.least).toNat + 1) + (mantissa - fraction)

end FloatFormat

end SourceIndex
