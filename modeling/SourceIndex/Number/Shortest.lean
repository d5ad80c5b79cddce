import SourceIndex.Number.Floating

set_option autoImplicit false

namespace SourceIndex

/-- The number `digits * 10 ^ exponent`. -/
structure Decimal where
  digits : Nat
  exponent : Int
deriving DecidableEq, Repr, Inhabited

namespace FloatFormat

/-- The positive numbers that round to one number, as fractions over `unit`: the ends, whether
they belong, and the number itself. -/
structure Interval where
  low : Nat
  middle : Nat
  high : Nat
  unit : Nat
  closed : Bool

/-- The ends lie halfway to the neighbours; below a power of two the neighbour is nearer. -/
def interval (format : FloatFormat) (mantissa : Nat) (exponent : Int) : Interval :=
  let scale := Nat.pow 2 exponent.toNat
  let narrow := mantissa == Nat.pow 2 (format.precision - 1) && format.least < exponent
  { low := (4 * mantissa - if narrow then 1 else 2) * scale
    middle := 4 * mantissa * scale
    high := (4 * mantissa + 2) * scale
    unit := 4 * Nat.pow 2 (-exponent).toNat
    closed := mantissa % 2 == 0 }

/-- Whether `count` steps of size `10 ^ place` lie in the interval. -/
def Interval.holds (interval : Interval) (place : Int) (count : Nat) : Bool :=
  let value := count * Nat.pow 10 place.toNat * interval.unit
  let scale := Nat.pow 10 (-place).toNat
  if interval.closed then
    interval.low * scale ≤ value && value ≤ interval.high * scale
  else interval.low * scale < value && value < interval.high * scale

/-- The point of the grid of step `10 ^ place` that lies in the interval and is nearest to its
number, an even one on a tie. -/
def Interval.gridPoint? (interval : Interval) (place : Int) : Option Nat :=
  let step := Nat.pow 10 place.toNat * interval.unit
  let middle := interval.middle * Nat.pow 10 (-place).toNat
  let below := middle / step
  let rest := middle % step
  let upFirst := 2 * rest > step || (2 * rest == step && below % 2 == 1)
  let candidates := if upFirst then [below + 1, below] else [below, below + 1]
  candidates.find? (interval.holds place)

/-- Goes to finer grids until one has a point in the interval. -/
def search (interval : Interval) : Nat → Int → Decimal
  | 0, place => ⟨0, place⟩
  | fuel + 1, place =>
    match interval.gridPoint? place with
    | some digits => if digits == 0 then search interval fuel (place - 1) else ⟨digits, place⟩
    | none => search interval fuel (place - 1)

/-- A place to start from, above the first digit of the number. -/
def firstPlace (mantissa : Nat) (exponent : Int) : Int :=
  (((Nat.log2 mantissa : Int) + 1 + exponent) * 30103) / 100000 + 2

def shortest (format : FloatFormat) (mantissa : Nat) (exponent : Int) : Decimal :=
  search (format.interval mantissa exponent) (format.precision + 5)
    (firstPlace mantissa exponent)

end FloatFormat

/-- How decimals are written: positionally if the point stands at most `positional` digits after
the first one, or less than `zeros` zeros before it; else with an exponent. -/
structure DecimalStyle where
  positional : Int
  zeros : Int

def DecimalStyle.double : DecimalStyle := ⟨16, 5⟩

def DecimalStyle.single : DecimalStyle := ⟨13, 6⟩

def decimalDigits (n : Nat) : List Char := (toString n).toList

namespace Decimal

/-- The decimal with at least one digit on each side of a point, or with one digit before the
point and an exponent with its sign. -/
def render (style : DecimalStyle) (decimal : Decimal) : List Char :=
  let digits := decimalDigits decimal.digits
  let point : Int := digits.length + decimal.exponent
  if 0 ≤ decimal.exponent ∧ point ≤ style.positional then
    digits ++ List.replicate decimal.exponent.toNat '0' ++ ['.', '0']
  else if 0 < point ∧ point ≤ style.positional then
    digits.take point.toNat ++ ['.'] ++ digits.drop point.toNat
  else if -style.zeros < point ∧ point ≤ 0 then
    ['0', '.'] ++ List.replicate (-point).toNat '0' ++ digits
  else
    let fraction := match digits.drop 1 with
      | [] => []
      | rest => '.' :: rest
    let exponent := point - 1
    let sign := if exponent < 0 then '-' else '+'
    digits.take 1 ++ fraction ++ ['e', sign] ++ decimalDigits exponent.natAbs

end Decimal

def Floating.render? (format : FloatFormat) (style : DecimalStyle) : Floating → Option (List Char)
  | .infinite _ => none
  | .finite negative mantissa exponent =>
    let sign := if negative then ['-'] else []
    if mantissa == 0 then some (sign ++ ['0', '.', '0'])
    else some (sign ++ (format.shortest mantissa exponent).render style)

end SourceIndex
