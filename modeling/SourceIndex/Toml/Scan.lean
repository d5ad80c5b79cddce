import SourceIndex.Number.Shortest
import SourceIndex.Toml.Fault

/-
The small parts of a TOML text: blanks, comments, strings, numbers and dates. A reader gives what
is left of the text, or a fault, after which another reader may be tried unless it is final.
-/

set_option autoImplicit false

namespace SourceIndex.Toml

abbrev Scan (α : Type) := List Char → Except Fault (α × List Char)

def failAt {α : Type} (rest : List Char) : Except Fault α := .error { rest }

def refuse {α : Type} (cause : Cause) (rest : List Char) : Except Fault α :=
  .error { rest, cause := some cause.message }

def amend {α : Type} (change : Fault → Fault) (read : Except Fault α) : Except Fault α :=
  match read with
  | .ok value => .ok value
  | .error fault => .error (change fault)

def commit {α : Type} (read : Except Fault α) : Except Fault α := amend Fault.commit read

def within {α : Type} (label : String) (read : Except Fault α) : Except Fault α :=
  amend (Fault.within label) read

def expecting {α : Type} (what : List String) (read : Except Fault α) : Except Fault α :=
  amend (Fault.expecting what) read

/-- Nothing, if the reader fails and the fault is not final. -/
def optional {α : Type} (read : Scan α) (text : List Char) :
    Except Fault (Option α × List Char) :=
  match read text with
  | .ok (value, rest) => .ok (some value, rest)
  | .error fault => if fault.final then .error fault else .ok (none, text)

/-- The second reader where the first fails, unless its fault is final. -/
def orElse {α : Type} (first second : Scan α) (text : List Char) :
    Except Fault (α × List Char) :=
  match first text with
  | .ok found => .ok found
  | .error fault => if fault.final then .error fault else second text

def scanChar (test : Char → Bool) : Scan Char
  | [] => failAt []
  | c :: rest => if test c then .ok (c, rest) else failAt (c :: rest)

def scanWord (word : String) (text : List Char) : Except Fault (Unit × List Char) :=
  if word.toList.isPrefixOf text then .ok ((), text.drop word.length) else failAt text

def scanSome (test : Char → Bool) (text : List Char) : Except Fault (List Char × List Char) :=
  let found := text.takeWhile test
  if found.isEmpty then failAt text else .ok (found, text.dropWhile test)

def tick (text : String) : String := Json.inTicks text

def isBlank (c : Char) : Bool := c == ' ' || c == '\t'

def skipBlanks (text : List Char) : List Char := text.dropWhile isBlank

def isPlain (c : Char) : Bool :=
  c == '\t' || (0x20 ≤ c.toNat && c.toNat ≤ 0x7E) || 0x80 ≤ c.toNat

/-- A line feed, or a carriage return with one. A carriage return alone is a fault after it. -/
def scanNewline : Scan Unit
  | '\n' :: rest => .ok ((), rest)
  | '\r' :: '\n' :: rest => .ok ((), rest)
  | '\r' :: rest => failAt rest
  | rest => failAt rest

def scanLineEnd : Scan Unit
  | [] => .ok ((), [])
  | '\n' :: rest => .ok ((), rest)
  | '\r' :: '\n' :: rest => .ok ((), rest)
  | rest => failAt rest

def skipComment (text : List Char) : List Char :=
  match text with
  | '#' :: rest => rest.dropWhile isPlain
  | _ => text

def scanLineRest (text : List Char) : Except Fault (Unit × List Char) :=
  scanLineEnd (skipComment (skipBlanks text))

/-- Blanks, comments and line ends. The bound on the steps is the length of the text. -/
def scanGaps : Nat → Scan Unit
  | 0, text => .ok ((), text)
  | fuel + 1, text =>
    match skipBlanks text with
    | '#' :: rest => do
      let ((), rest) ← scanNewline (rest.dropWhile isPlain)
      scanGaps fuel rest
    | '\n' :: rest => scanGaps fuel rest
    | '\r' :: rest => do
      let ((), rest) ← scanNewline ('\r' :: rest)
      scanGaps fuel rest
    | rest => .ok ((), rest)

def gaps (text : List Char) : Except Fault (Unit × List Char) := scanGaps (text.length + 1) text

def skipBlankLines : Nat → List Char → List Char
  | 0, text => text
  | fuel + 1, text =>
    match text with
    | '\n' :: rest => skipBlankLines fuel rest
    | '\r' :: '\n' :: rest => skipBlankLines fuel rest
    | c :: rest => if isBlank c then skipBlankLines fuel rest else c :: rest
    | [] => []

def isHex (c : Char) : Bool :=
  ('0' ≤ c && c ≤ '9') || ('a' ≤ c && c ≤ 'f') || ('A' ≤ c && c ≤ 'F')

def hexValue (digits : List Char) : Nat :=
  digits.foldl (fun value c => value * 16 +
    (if c ≤ '9' then c.toNat - '0'.toNat
      else if c ≤ 'F' then c.toNat - 'A'.toNat + 10
      else c.toNat - 'a'.toNat + 10)) 0

def isScalarValue (code : Nat) : Bool := code < 0xD800 || (0xDFFF < code && code < 0x110000)

/-- The digits of an escape by code point, a fixed number of them. -/
def scanCode (count : Nat) (text : List Char) : Except Fault (Char × List Char) :=
  let digits := (text.take count).takeWhile isHex
  if digits.length != count then failAt text
  else if isScalarValue (hexValue digits) then
    .ok (Char.ofNat (hexValue digits), text.drop count)
  else refuse .outOfRange text

/-- The place after a character of one byte, or before a longer one. -/
def placeAfter (c : Char) (rest : List Char) : List Char :=
  if c.utf8Size == 1 then rest else c :: rest

def scanEscape : Scan Char
  | [] => failAt []
  | 'b' :: rest => .ok ('\x08', rest)
  | 'f' :: rest => .ok ('\x0c', rest)
  | 'n' :: rest => .ok ('\n', rest)
  | 'r' :: rest => .ok ('\r', rest)
  | 't' :: rest => .ok ('\t', rest)
  | '\\' :: rest => .ok ('\\', rest)
  | '"' :: rest => .ok ('"', rest)
  | 'u' :: rest => within "unicode 4-digit hex code" (commit (scanCode 4 rest))
  | 'U' :: rest => within "unicode 8-digit hex code" (commit (scanCode 8 rest))
  | c :: rest =>
    .error {
      rest := placeAfter c rest
      final := true
      label := some "escape sequence"
      expected := ["b", "f", "n", "r", "t", "u", "U", "\\", "\""].map tick }

/-- Whether a character may stand in a string in double quotes as it is. -/
def isBasic (c : Char) : Bool := isPlain c && c != '"' && c != '\\'

/-- The characters of a string in double quotes, put before `taken` backwards. -/
def scanBasicFrom : Nat → List Char → Scan (List Char)
  | 0, taken, text => .ok (taken.reverse, text)
  | fuel + 1, taken, text =>
    match text with
    | '\\' :: rest =>
      match scanEscape rest with
      | .ok (c, rest) => scanBasicFrom fuel (c :: taken) rest
      | .error fault => if fault.final then .error fault else .ok (taken.reverse, text)
    | c :: rest =>
      if isBasic c then scanBasicFrom fuel (c :: taken) rest else .ok (taken.reverse, text)
    | [] => .ok (taken.reverse, [])

def scanBasic (text : List Char) : Except Fault (List Char × List Char) := do
  let (_, rest) ← scanChar (· == '"') text
  let (value, rest) ← scanBasicFrom (rest.length + 1) [] rest
  let (_, rest) ← within "basic string" (commit (scanChar (· == '"') rest))
  return (value, rest)

def isLiteral (c : Char) : Bool := isPlain c && c != '\''

def scanLiteral (text : List Char) : Except Fault (List Char × List Char) := do
  let (_, rest) ← scanChar (· == '\'') text
  let value := rest.takeWhile isLiteral
  let (_, rest) ←
    within "literal string" (commit (scanChar (· == '\'') (rest.dropWhile isLiteral)))
  return (value, rest)

/-- A line end that a backslash hides, with the blanks and line ends after it. -/
def hiddenLineEnd? (text : List Char) : Option (List Char) :=
  match text with
  | '\\' :: rest =>
    match scanNewline (skipBlanks rest) with
    | .ok ((), rest) => some (skipBlankLines (rest.length + 1) rest)
    | .error _ => none
  | _ => none

/-- The number of quotes that stand at the front of a text. -/
def quotesAhead (quote : Char) (text : List Char) : Nat := (text.takeWhile (· == quote)).length

/-- The body of a string in triple double quotes, put before `taken` backwards. One or two quotes
belong to it where the body goes on or where three more follow them. -/
def scanLongBasicFrom : Nat → List Char → Scan (List Char)
  | 0, taken, text => .ok (taken.reverse, text)
  | fuel + 1, taken, text =>
    match text with
    | [] => .ok (taken.reverse, [])
    | '\n' :: rest => scanLongBasicFrom fuel ('\n' :: taken) rest
    | '\r' :: '\n' :: rest => scanLongBasicFrom fuel ('\n' :: taken) rest
    | '\\' :: rest =>
      match hiddenLineEnd? text with
      | some rest => scanLongBasicFrom fuel taken rest
      | none =>
        match scanEscape rest with
        | .ok (c, rest) => scanLongBasicFrom fuel (c :: taken) rest
        | .error fault => if fault.final then .error fault else .ok (taken.reverse, text)
    | '"' :: rest =>
      let quotes := quotesAhead '"' text
      if 3 ≤ quotes then
        let extra := min 2 (quotes - 3)
        .ok ((List.replicate extra '"' ++ taken).reverse, text.drop extra)
      else
        let later := text.drop quotes
        let goesOn := match later with
          | '\\' :: _ => true
          | '\n' :: _ => true
          | '\r' :: '\n' :: _ => true
          | c :: _ => isBasic c
          | [] => false
        if goesOn then scanLongBasicFrom fuel ('"' :: taken) rest
        else .ok (taken.reverse, text)
    | c :: rest =>
      if isBasic c then scanLongBasicFrom fuel (c :: taken) rest else .ok (taken.reverse, text)

/-- A string in triple double quotes. A line end right after them is left out. -/
def scanLongBasic (text : List Char) : Except Fault (List Char × List Char) :=
  within "multiline basic string" do
    let ((), rest) ← scanWord "\"\"\"" text
    let (_, rest) ← optional scanNewline rest
    let (value, rest) ← commit (scanLongBasicFrom (rest.length + 1) [] rest)
    let ((), rest) ← commit (scanWord "\"\"\"" rest)
    return (value, rest)

/-- The body of a string in triple single quotes, put before `taken` backwards. -/
def scanLongLiteralFrom : Nat → List Char → Scan (List Char)
  | 0, taken, text => .ok (taken.reverse, text)
  | fuel + 1, taken, text =>
    match text with
    | [] => .ok (taken.reverse, [])
    | '\n' :: rest => scanLongLiteralFrom fuel ('\n' :: taken) rest
    | '\r' :: '\n' :: rest => scanLongLiteralFrom fuel ('\n' :: taken) rest
    | '\'' :: rest =>
      let quotes := quotesAhead '\'' text
      if 3 ≤ quotes then
        let extra := min 2 (quotes - 3)
        .ok ((List.replicate extra '\'' ++ taken).reverse, text.drop extra)
      else
        let goesOn := match text.drop quotes with
          | '\n' :: _ => true
          | '\r' :: '\n' :: _ => true
          | c :: _ => isLiteral c
          | [] => false
        if goesOn then scanLongLiteralFrom fuel ('\'' :: taken) rest
        else .ok (taken.reverse, text)
    | c :: rest =>
      if isLiteral c then scanLongLiteralFrom fuel (c :: taken) rest
      else .ok (taken.reverse, text)

def scanLongLiteral (text : List Char) : Except Fault (List Char × List Char) :=
  within "multiline literal string" do
    let ((), rest) ← scanWord "'''" text
    let (_, rest) ← optional scanNewline rest
    let (value, rest) ← commit (scanLongLiteralFrom (rest.length + 1) [] rest)
    let ((), rest) ← commit (scanWord "'''" rest)
    return (value, rest)

def scanString : Scan (List Char) :=
  orElse scanLongBasic (orElse scanBasic (orElse scanLongLiteral scanLiteral))

def isDigit (c : Char) : Bool := '0' ≤ c && c ≤ '9'

def isSign (c : Char) : Bool := c == '+' || c == '-'

/-- Digits after the first one, with single underscores between them. -/
def scanDigitsFrom (test : Char → Bool) : Nat → List Char → Scan (List Char)
  | 0, taken, text => .ok (taken.reverse, text)
  | fuel + 1, taken, text =>
    match text with
    | '_' :: rest => do
      let (c, rest) ← expecting ["digit"] (commit (scanChar test rest))
      scanDigitsFrom test fuel (c :: taken) rest
    | c :: rest =>
      if test c then scanDigitsFrom test fuel (c :: taken) rest else .ok (taken.reverse, text)
    | [] => .ok (taken.reverse, [])

/-- Digits, at least one. Underscores are left out of what is read. -/
def scanDigits (test : Char → Bool) (text : List Char) : Except Fault (List Char × List Char) := do
  let (c, rest) ← scanChar test text
  scanDigitsFrom test (rest.length + 1) [c] rest

def scanSign (text : List Char) : Option Char × List Char :=
  match text with
  | c :: rest => if isSign c then (some c, rest) else (none, text)
  | [] => (none, [])

/-- A whole number in decimal: its sign and its digits. Only a lone zero begins with one. -/
def scanDecimal (text : List Char) : Except Fault ((Option Char × List Char) × List Char) :=
  within "integer" <|
    let (sign, rest) := scanSign text
    match rest with
    | '0' :: later => .ok ((sign, ['0']), later)
    | _ => do
      let (digits, rest) ← scanDigits isDigit rest
      return ((sign, digits), rest)

def integerBound : Nat := Nat.pow 2 63

def overflow {α : Type} (what : String) (rest : List Char) : Except Fault α :=
  .error { rest, final := true, cause := some ("number too " ++ what ++ " to fit in target type") }

def scanPrefixed (label : String) (base : Nat) (test : Char → Bool) (text : List Char) :
    Except Fault (Int × List Char) := do
  let (digits, rest) ← commit (within label (commit (scanDigits test (text.drop 2))))
  let value := digits.foldl (fun value c => value * base + hexValue [c]) 0
  if integerBound ≤ value then overflow "large" text else return (value, rest)

def scanInteger (text : List Char) : Except Fault (Int × List Char) :=
  match text with
  | '0' :: 'x' :: _ => scanPrefixed "hexadecimal integer" 16 isHex text
  | '0' :: 'o' :: _ => scanPrefixed "octal integer" 8 (fun c => '0' ≤ c && c ≤ '7') text
  | '0' :: 'b' :: _ => scanPrefixed "binary integer" 2 (fun c => c == '0' || c == '1') text
  | _ => do
    let ((sign, digits), rest) ← scanDecimal text
    let size := hexValueInDecimal digits
    if sign == some '-' then
      if integerBound < size then overflow "small" text else return (-(size : Int), rest)
    else if integerBound ≤ size then overflow "large" text
    else return ((size : Int), rest)
where
  hexValueInDecimal (digits : List Char) : Nat :=
    digits.foldl (fun value c => value * 10 + (c.toNat - '0'.toNat)) 0

/-- A number of 64 bits by its text in decimal, with a point if it is finite. -/
def decimalText (value : Floating) : String :=
  match value with
  | .infinite negative => if negative then "-inf" else "inf"
  | value =>
    String.ofList ((value.render? .double ⟨400, 400⟩).getD [])

/-- A number of 64 bits from its digits and the exponent of the last one. Exponents far out of
range are not worked out. -/
def floatOf (negative : Bool) (digits : List Char) (exponent : Int) : Floating :=
  let digits := digits.dropWhile (· == '0')
  let significand := digits.foldl (fun value c => value * 10 + (c.toNat - '0'.toNat)) 0
  let point : Int := digits.length + exponent
  if significand == 0 || point < -400 then .zero negative
  else if 400 < point then .infinite negative
  else FloatFormat.double.round negative (significand * Nat.pow 10 exponent.toNat)
    (Nat.pow 10 (-exponent).toNat)

def scanExponent (text : List Char) : Except Fault (Int × List Char) := do
  let (_, rest) ← scanChar (fun c => c == 'e' || c == 'E') text
  let (sign, rest) := scanSign rest
  let (digits, rest) ← commit (scanDigits isDigit rest)
  let digits := digits.dropWhile (· == '0')
  let size : Nat :=
    if 9 < digits.length then Nat.pow 10 9
    else digits.foldl (fun value c => value * 10 + (c.toNat - '0'.toNat)) 0
  return (if sign == some '-' then -(size : Int) else size, rest)

def scanFraction (text : List Char) : Except Fault (List Char × List Char) := do
  let (_, rest) ← scanChar (· == '.') text
  expecting ["digit"] (commit (scanDigits isDigit rest))

/-- What makes a number a floating-point number: an exponent, or a fraction and perhaps an
exponent. -/
def scanFloatTail : Scan (List Char × Int) :=
  orElse
    (fun text => do
      let (exponent, rest) ← scanExponent text
      return (([], exponent), rest))
    (fun text => do
      let (fraction, rest) ← scanFraction text
      let (exponent, rest) ← optional scanExponent rest
      return ((fraction, exponent.getD 0), rest))

def scanNamedFloat (text : List Char) : Except Fault (String × List Char) :=
  let (sign, rest) := scanSign text
  orElse
    (fun rest => do
      let ((), rest) ← scanWord "inf" rest
      return (decimalText (.infinite (sign == some '-')), rest))
    (fun rest => do
      let ((), rest) ← scanWord "nan" rest
      return ("NaN", rest))
    rest

def scanPlainFloat (text : List Char) : Except Fault (String × List Char) := do
  let ((sign, digits), rest) ← scanDecimal text
  let ((fraction, exponent), rest) ← scanFloatTail rest
  let value := floatOf (sign == some '-') (digits ++ fraction) (exponent - fraction.length)
  if value == .infinite false then .error { rest := text, final := true }
  else return (decimalText value, rest)

def scanFloat (text : List Char) : Except Fault (String × List Char) :=
  within "floating-point number" (orElse scanPlainFloat scanNamedFloat text)

/-- A fixed number of digits whose value lies between two bounds. -/
def scanPart (count least greatest : Nat) (text : List Char) : Except Fault (Nat × List Char) :=
  let digits := (text.take count).takeWhile isDigit
  if digits.length != count then failAt text
  else
    let value := digits.foldl (fun value c => value * 10 + (c.toNat - '0'.toNat)) 0
    if least ≤ value && value ≤ greatest then .ok (value, text.drop count)
    else refuse .outOfRange text

def daysIn (year month : Nat) : Nat :=
  let leap := year % 4 == 0 && (year % 100 != 0 || year % 400 == 0)
  if month == 2 then (if leap then 29 else 28)
  else if [4, 6, 9, 11].contains month then 30
  else 31

def scanDate (text : List Char) : Except Fault (Unit × List Char) := do
  let (year, rest) ← scanPart 4 0 9999 text
  let (_, rest) ← scanChar (· == '-') rest
  let (month, rest) ← commit (scanPart 2 1 12 rest)
  let (_, rest) ← commit (scanChar (· == '-') rest)
  let (day, later) ← commit (scanPart 2 1 31 rest)
  if daysIn year month < day then commit (refuse .outOfRange rest) else return ((), later)

def scanTime (text : List Char) : Except Fault (Unit × List Char) := do
  let (_, rest) ← scanPart 2 0 23 text
  let (_, rest) ← scanChar (· == ':') rest
  commit do
    let (_, rest) ← scanPart 2 0 59 rest
    let (_, rest) ← scanChar (· == ':') rest
    let (_, rest) ← scanPart 2 0 60 rest
    match rest with
    | '.' :: later =>
      let digits := later.takeWhile isDigit
      return ((), if digits.isEmpty then rest else later.dropWhile isDigit)
    | _ => return ((), rest)

def scanTimeOffset (text : List Char) : Except Fault (Unit × List Char) :=
  within "time offset" <|
    match text with
    | 'Z' :: rest => .ok ((), rest)
    | 'z' :: rest => .ok ((), rest)
    | _ => do
      let (_, rest) ← scanChar isSign text
      commit do
        let (_, rest) ← scanPart 2 0 23 rest
        let (_, rest) ← scanChar (· == ':') rest
        let (_, rest) ← scanPart 2 0 59 rest
        return ((), rest)

def scanTimeAfterDate (text : List Char) : Except Fault (Unit × List Char) := do
  let (_, rest) ← scanChar (fun c => c == 'T' || c == 't' || c == ' ') text
  let ((), rest) ← scanTime rest
  let (_, rest) ← optional scanTimeOffset rest
  return ((), rest)

def scanDateTime : Scan Unit :=
  orElse
    (fun text => within "date-time" do
      let ((), rest) ← scanDate text
      let (_, rest) ← optional scanTimeAfterDate rest
      return ((), rest))
    (fun text => within "time" (scanTime text))

def scanNumeric : Scan Scalar :=
  orElse
    (fun text => do
      let ((), rest) ← scanDateTime text
      return (.dateTime, rest))
    (orElse
      (fun text => do
        let (value, rest) ← scanFloat text
        return (.float value, rest))
      (fun text => do
        let (value, rest) ← scanInteger text
        return (.integer value, rest)))

end SourceIndex.Toml
