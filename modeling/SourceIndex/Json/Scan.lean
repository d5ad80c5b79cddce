import SourceIndex.Json.Fault

set_option autoImplicit false

namespace SourceIndex.Json

/-- Reads from the front of a text, and gives what is left of it. -/
abbrev Scan (α : Type) := List Char → Except Fault (α × List Char)

def isSpace (c : Char) : Bool := c == ' ' || c == '\n' || c == '\t' || c == '\r'

def skipSpaces (text : List Char) : List Char := text.dropWhile isSpace

def scanWord : List Char → Scan Unit
  | [], text => .ok ((), text)
  | _ :: _, [] => .error (Fault.at .endInValue [])
  | letter :: letters, c :: rest =>
    if c == letter then scanWord letters rest
    else .error (Fault.past .expectedIdent (c :: rest))

def hexValue? (c : Char) : Option Nat :=
  if '0' ≤ c ∧ c ≤ '9' then some (c.toNat - '0'.toNat)
  else if 'a' ≤ c ∧ c ≤ 'f' then some (c.toNat - 'a'.toNat + 10)
  else if 'A' ≤ c ∧ c ≤ 'F' then some (c.toNat - 'A'.toNat + 10)
  else none

/-- Four hexadecimal digits. If four bytes are left and are not digits, the fault lies after
them. -/
def scanHex (text : List Char) : Except Fault (Nat × List Char) :=
  let wrong : Fault :=
    let left := Text.byteCount text
    if left < 4 then ⟨.endInString, 0⟩ else ⟨.invalidEscape, left - 4⟩
  match text with
  | a :: b :: c :: d :: rest =>
    match hexValue? a, hexValue? b, hexValue? c, hexValue? d with
    | some a, some b, some c, some d => .ok (((a * 16 + b) * 16 + c) * 16 + d, rest)
    | _, _, _, _ => .error wrong
  | _ => .error wrong

def isHighSurrogate (code : Nat) : Bool := 0xD800 ≤ code && code ≤ 0xDBFF

def isLowSurrogate (code : Nat) : Bool := 0xDC00 ≤ code && code ≤ 0xDFFF

/-- A character of the text that must be `c`; any other is a fault after its first byte. -/
def expectInEscape (c : Char) : Scan Unit
  | [] => .error (Fault.at .endInString [])
  | head :: rest =>
    if head == c then .ok ((), rest) else .error (Fault.past .endOfEscape (head :: rest))

/-- The character of an escape, after the letter `u`. Two escapes make a character past U+FFFF. -/
def scanUnicode (text : List Char) : Except Fault (Char × List Char) := do
  let (high, rest) ← scanHex text
  if isLowSurrogate high then throw (Fault.at .loneSurrogate rest)
  else if isHighSurrogate high then
    let ((), rest) ← expectInEscape '\\' rest
    let ((), rest) ← expectInEscape 'u' rest
    let (low, rest) ← scanHex rest
    if isLowSurrogate low then
      return (Char.ofNat ((high - 0xD800) * 0x400 + (low - 0xDC00) + 0x10000), rest)
    else throw (Fault.at .loneSurrogate rest)
  else return (Char.ofNat high, rest)

def shortEscape? (c : Char) : Option Char :=
  match c with
  | '"' => some '"'
  | '\\' => some '\\'
  | '/' => some '/'
  | 'b' => some '\x08'
  | 'f' => some '\x0c'
  | 'n' => some '\n'
  | 'r' => some '\r'
  | 't' => some '\t'
  | _ => none

def scanEscape : Scan Char
  | [] => .error (Fault.at .endInString [])
  | c :: rest =>
    if c == 'u' then scanUnicode rest
    else match shortEscape? c with
      | some value => .ok (value, rest)
      | none => .error (Fault.past .invalidEscape (c :: rest))

/-- The characters of a string after its opening quote, put before `taken` backwards. -/
def scanStringFrom : Nat → List Char → Scan (List Char)
  | 0, _, text => .error (Fault.at .endInString text)
  | _ + 1, _, [] => .error (Fault.at .endInString [])
  | fuel + 1, taken, c :: rest =>
    if c == '"' then .ok (taken.reverse, rest)
    else if c == '\\' then
      match scanEscape rest with
      | .ok (value, rest) => scanStringFrom fuel (value :: taken) rest
      | .error fault => .error fault
    else if c.toNat < 0x20 then .error (Fault.at .controlCharacter rest)
    else scanStringFrom fuel (c :: taken) rest

/-- A string after its opening quote, in a text of less than `bound` characters. -/
def scanString (bound : Nat) (text : List Char) : Except Fault (String × List Char) :=
  match scanStringFrom bound [] text with
  | .ok (characters, rest) => .ok (String.ofList characters, rest)
  | .error fault => .error fault

/-- A string whose value is not wanted: the code points of escapes are not looked at. -/
def passString : Nat → Scan Unit
  | 0, text => .error (Fault.at .endInString text)
  | _ + 1, [] => .error (Fault.at .endInString [])
  | fuel + 1, c :: rest =>
    if c == '"' then .ok ((), rest)
    else if c == '\\' then
      match rest with
      | [] => .error (Fault.at .endInString [])
      | 'u' :: rest =>
        match scanHex rest with
        | .ok (_, rest) => passString fuel rest
        | .error fault => .error fault
      | letter :: later =>
        if (shortEscape? letter).isSome then passString fuel later
        else .error (Fault.past .invalidEscape rest)
    else if c.toNat < 0x20 then .error (Fault.at .controlCharacter (c :: rest))
    else passString fuel rest

def digit? (c : Char) : Option Nat :=
  if '0' ≤ c ∧ c ≤ '9' then some (c.toNat - '0'.toNat) else none

def isDigit (c : Char) : Bool := (digit? c).isSome

def skipDigits (text : List Char) : List Char := text.dropWhile isDigit

/-- The greatest number that the digits of a significand may form. -/
def significandBound : Nat := Nat.pow 2 64

def powerOfTen (exponent : Nat) : Floating := FloatFormat.double.ofNat (Nat.pow 10 exponent)

/-- Divides by powers of ten, at most `10 ^ 308` at a time. -/
def divideByPower : Nat → Floating → Nat → Floating
  | 0, value, _ => value
  | fuel + 1, value, exponent =>
    if exponent ≤ 308 then FloatFormat.double.divide value (powerOfTen exponent)
    else if value.isZero then value
    else divideByPower fuel (FloatFormat.double.divide value (powerOfTen 308)) (exponent - 308)

/-- The number `significand * 10 ^ exponent`, rounded once for the significand and once for each
power. One too large is none. -/
def scaled? (significand : Nat) (exponent : Int) : Option Floating :=
  let value := FloatFormat.double.ofNat significand
  if exponent < 0 then some (divideByPower 64 value exponent.natAbs)
  else if exponent ≤ 308 then
    let value := FloatFormat.double.multiply value (powerOfTen exponent.toNat)
    if value.isInfinite then none else some value
  else if value.isZero then some value
  else none

def signed (positive : Bool) (value : Floating) : Floating :=
  if positive then value else value.negate

def scanScaled (positive : Bool) (significand : Nat) (exponent : Int) : Scan Floating :=
  fun text => match scaled? significand exponent with
    | some value => .ok (signed positive value, text)
    | none => .error (Fault.at .numberOutOfRange text)

def exponentBound : Nat := Nat.pow 2 31

/-- The digits of an exponent while it stays in bounds: its value, and the first digit that takes
it out of them. -/
def scanExponentDigits : Nat → List Char → Nat × Bool × List Char
  | value, [] => (value, false, [])
  | value, c :: rest =>
    match digit? c with
    | none => (value, false, c :: rest)
    | some digit =>
      if value * 10 + digit < exponentBound then scanExponentDigits (value * 10 + digit) rest
      else (value, true, rest)

def clampExponent (exponent : Int) : Int :=
  max (-(exponentBound : Int)) (min exponent (exponentBound - 1))

/-- The exponent after its letter, and with it the number. -/
def scanExponent (positive : Bool) (significand : Nat) (start : Int) : Scan Floating := fun text =>
  let (grows, text) := match text with
    | '+' :: rest => (true, rest)
    | '-' :: rest => (false, rest)
    | _ => (true, text)
  match text with
  | [] => .error (Fault.at .endInValue [])
  | c :: rest =>
    match digit? c with
    | none => .error (Fault.past .invalidNumber (c :: rest))
    | some digit =>
      let (value, beyond, rest) := scanExponentDigits digit rest
      if beyond then
        if significand != 0 && grows then .error (Fault.at .numberOutOfRange rest)
        else .ok (signed positive (.zero false), skipDigits rest)
      else
        let exponent : Int := if grows then start + value else start - value
        scanScaled positive significand (clampExponent exponent) rest

/-- The digits of a fraction that fit the significand: the significand, how many they are, whether
one did not fit, and the rest. -/
def scanFractionDigits : Nat → Nat → List Char → Nat × Nat × Bool × List Char
  | significand, count, [] => (significand, count, false, [])
  | significand, count, c :: rest =>
    match digit? c with
    | none => (significand, count, false, c :: rest)
    | some digit =>
      if significand * 10 + digit < significandBound then
        scanFractionDigits (significand * 10 + digit) (count + 1) rest
      else (significand, count, true, c :: rest)

/-- The fraction after its point, and with it the number. Digits past the bound are passed over. -/
def scanFraction (positive : Bool) (significand : Nat) (start : Int) : Scan Floating := fun text =>
  let (significand, count, beyond, rest) := scanFractionDigits significand 0 text
  if count == 0 && !beyond then
    match rest with
    | [] => .error (Fault.at .endInValue [])
    | _ :: _ => .error (Fault.past .invalidNumber rest)
  else
    let exponent : Int := start - count
    let rest := if beyond then skipDigits rest else rest
    match rest with
    | 'e' :: rest => scanExponent positive significand exponent rest
    | 'E' :: rest => scanExponent positive significand exponent rest
    | _ => scanScaled positive significand exponent rest

/-- What follows the whole digits of a number with a significand at its bound. -/
def scanLong (positive : Bool) (significand : Nat) : Scan Floating := fun text =>
  let rest := skipDigits text
  let exponent : Int := text.length - rest.length
  match rest with
  | '.' :: rest => scanFraction positive significand exponent rest
  | 'e' :: rest => scanExponent positive significand exponent rest
  | 'E' :: rest => scanExponent positive significand exponent rest
  | _ => scanScaled positive significand exponent rest

/-- A whole number: one that is negative and does not fit 63 bits is rounded, and so is `-0`. -/
def wholeNumber (positive : Bool) (significand : Nat) : Json :=
  if positive then .integer significand
  else if significand == 0 || Nat.pow 2 63 < significand then
    .double (FloatFormat.double.ofNat significand).negate
  else .integer (-significand)

def asDouble (read : Except Fault (Floating × List Char)) : Except Fault (Json × List Char) :=
  match read with
  | .ok (value, rest) => .ok (.double value, rest)
  | .error fault => .error fault

def scanAfterWhole (positive : Bool) (significand : Nat) : Scan Json := fun text =>
  match text with
  | '.' :: rest => asDouble (scanFraction positive significand 0 rest)
  | 'e' :: rest => asDouble (scanExponent positive significand 0 rest)
  | 'E' :: rest => asDouble (scanExponent positive significand 0 rest)
  | _ => .ok (wholeNumber positive significand, text)

def scanWhole (positive : Bool) : Nat → Scan Json
  | significand, [] => .ok (wholeNumber positive significand, [])
  | significand, c :: rest =>
    match digit? c with
    | none => scanAfterWhole positive significand (c :: rest)
    | some digit =>
      if significand * 10 + digit < significandBound then
        scanWhole positive (significand * 10 + digit) rest
      else asDouble (scanLong positive significand (c :: rest))

/-- A number after its sign. A zero may not lead other digits. -/
def scanNumber (positive : Bool) : Scan Json
  | [] => .error (Fault.at .endInValue [])
  | c :: rest =>
    match digit? c with
    | none => .error (Fault.past .invalidNumber (c :: rest))
    | some 0 =>
      match rest with
      | next :: _ =>
        if isDigit next then .error (Fault.past .invalidNumber rest)
        else scanAfterWhole positive 0 rest
      | [] => scanAfterWhole positive 0 rest
    | some digit => scanWhole positive digit rest

/-- An exponent whose value is not wanted, after its letter. -/
def passExponent : Scan Unit := fun text =>
  let text := match text with
    | '+' :: rest => rest
    | '-' :: rest => rest
    | _ => text
  match text with
  | [] => .error (Fault.at .invalidNumber [])
  | c :: rest =>
    if isDigit c then .ok ((), skipDigits rest)
    else .error (Fault.past .invalidNumber (c :: rest))

def passAfterWhole : Scan Unit
  | 'e' :: rest => passExponent rest
  | 'E' :: rest => passExponent rest
  | '.' :: rest =>
    let later := skipDigits rest
    if later.length == rest.length then .error (Fault.past .invalidNumber rest)
    else match later with
      | 'e' :: rest => passExponent rest
      | 'E' :: rest => passExponent rest
      | _ => .ok ((), later)
  | text => .ok ((), text)

def passNumber : Scan Unit
  | [] => .error (Fault.at .invalidNumber [])
  | c :: rest =>
    match digit? c with
    | none => .error (Fault.past .invalidNumber (c :: rest))
    | some 0 =>
      match rest with
      | next :: _ =>
        if isDigit next then .error (Fault.past .invalidNumber rest) else passAfterWhole rest
      | [] => passAfterWhole rest
    | some _ => passAfterWhole (skipDigits rest)

end SourceIndex.Json
