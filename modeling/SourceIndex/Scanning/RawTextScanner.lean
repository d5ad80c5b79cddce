import SourceIndex.Lexing.Scanner

set_option autoImplicit false

namespace SourceIndex.RawTextScanner

/-- The numbers of the external tokens. -/
def stringContent : Nat := 0
def rawStart : Nat := 1
def rawContent : Nat := 2
def rawEnd : Nat := 3
def floatLiteral : Nat := 4
def outerMarker : Nat := 5
def innerMarker : Nat := 6
def commentContent : Nat := 7
def docLine : Nat := 8
def sentinel : Nat := 9

def isBlank (code : Nat) : Bool := code == 32 || (9 ≤ code && code ≤ 13)

def isDigit (code : Nat) : Bool := 48 ≤ code && code ≤ 57

def isDigitOrScore (code : Nat) : Bool := isDigit code || code == 0x5F

def isLetter (code : Nat) : Bool := (65 ≤ code && code ≤ 90) || (97 ≤ code && code ≤ 122)

def scanString (source : Source) (first : Nat) : Option (Nat × Nat) :=
  let last := source.skip (fun code => code != 0x22 && code != 0x5C) first
  if source.atEnd last || last == first then none else some (stringContent, last)

/-- The opening of a raw string, with the number of its hash signs. -/
def scanRawStart (source : Source) (first : Nat) : Option (Nat × Nat) :=
  let offset :=
    if source.hasChar first 'b' || source.hasChar first 'c' then source.next first else first
  if !source.hasChar offset 'r' then none
  else
    let hashes := source.next offset
    let quote := source.skip (· == 0x23) hashes
    if source.hasChar quote '"' then some (source.next quote, (quote - hashes) % 256) else none

/-- Raw text goes on to the first quotation mark that enough hash signs follow. -/
def scanRawContent (source : Source) (hashes : Nat) : Nat → Nat → Option Nat
  | 0, _ => none
  | fuel + 1, offset =>
    if source.atEnd offset then none
    else if source.hasChar offset '"' then
      let after := source.next offset
      let count := source.skip (· == 0x23) after - after
      if hashes ≤ count then some offset
      else scanRawContent source hashes fuel (after + count)
    else scanRawContent source hashes fuel (source.next offset)

def advance (source : Source) : Nat → Nat → Nat
  | 0, offset => offset
  | count + 1, offset => advance source count (source.next offset)

def floatSuffixEnd (source : Source) (offset : Nat) : Nat :=
  let code := source.code offset
  if code == 0x75 || code == 0x69 || code == 0x66 then
    let digits := source.next offset
    let last := source.skip isDigit digits
    if last == digits then offset else last
  else offset

/-- A number counts as floating-point if it has a fraction or an exponent. -/
def scanFloat (source : Source) (first : Nat) : Option Nat :=
  let whole := source.skip isDigitOrScore (source.next first)
  let fraction : Option (Nat × Bool) :=
    if source.hasChar whole '.' then
      let after := source.next whole
      if isLetter (source.code after) || source.hasChar after '.' then none
      else some (source.skip isDigitOrScore after, true)
    else some (whole, false)
  match fraction with
  | none => none
  | some (last, hasFraction) =>
    if source.hasChar last 'e' || source.hasChar last 'E' then
      let sign := source.next last
      let digits :=
        if source.hasChar sign '+' || source.hasChar sign '-' then source.next sign else sign
      if isDigitOrScore (source.code digits) then
        some (floatSuffixEnd source (source.skip isDigitOrScore digits))
      else some last
    else if hasFraction then some (floatSuffixEnd source last)
    else none

/-- Where reading stands inside a comment: after a slash, after an asterisk, or elsewhere. -/
inductive CommentPlace where
  | slash
  | asterisk
  | plain

/-- Reads the content of a comment up to the asterisk that closes it; `mark` is where the content
ends as far as is known. -/
def scanComment (source : Source) : Nat → Nat → CommentPlace → Nat → Option Nat → Option Nat
  | 0, _, _, _, mark => mark
  | fuel + 1, offset, place, depth, mark =>
    if source.atEnd offset || depth == 0 then some (mark.getD offset)
    else
      -- only the low byte of a character is looked at
      let low := source.code offset % 256
      let next := source.next offset
      let (place, depth, mark) := match place with
        | .slash => (CommentPlace.plain, if low == 0x2A then depth + 1 else depth, mark)
        | .asterisk =>
          if low == 0x2A then (.asterisk, depth, some offset)
          else (.plain, if low == 0x2F then depth - 1 else depth, mark)
        | .plain =>
          (if low == 0x2F then .slash else if low == 0x2A then .asterisk else .plain, depth,
            some offset)
      let mark := if low == 0x2F && depth != 0 then some next else mark
      scanComment source fuel next place depth mark

def scanCommentFrom (source : Source) (valid : Nat → Bool) (first : Nat) (mark : Option Nat) :
    Option (Nat × Nat) :=
  let low := source.code first % 256
  let next := source.next first
  if !valid commentContent then none
  else if low == 0x2A && source.hasChar next '/' then none
  else
    let place : CommentPlace :=
      if low == 0x2A then .asterisk else if low == 0x2F then .slash else .plain
    (scanComment source (source.size + 1) next place 1 mark).map fun last =>
      (commentContent, last)

/-- What follows the opening of a block comment: a mark of documentation or the content. -/
def scanBlock (source : Source) (valid : Nat → Bool) (first : Nat) : Option (Nat × Nat) :=
  let low := source.code first % 256
  let next := source.next first
  if valid innerMarker && low == 0x21 then some (innerMarker, next)
  else if valid outerMarker && low == 0x2A then
    if source.hasChar next '/' then none
    else if source.hasChar next '*' then scanCommentFrom source valid first (some next)
    else some (outerMarker, next)
  else scanCommentFrom source valid first none

/-- A line of documentation includes the line feed that ends it. -/
def scanDocLine (source : Source) (first : Nat) : Nat :=
  source.next (source.skip (· != 10) first)

def scanner : Scanner := fun source valid state start =>
  let hashes := state.headD 0
  let found (first : Nat) (symbol last : Nat) : Scanned :=
    { symbol, first, last, state := [hashes] }
  if valid sentinel then none
  else if valid commentContent || valid innerMarker || valid outerMarker then
    (scanBlock source valid start).map fun (symbol, last) => found start symbol last
  else if valid stringContent && !valid floatLiteral then
    (scanString source start).map fun (symbol, last) => found start symbol last
  else if valid docLine then some (found start docLine (scanDocLine source start))
  else
    let first := source.skip isBlank start
    if valid rawStart &&
        (source.hasChar first 'r' || source.hasChar first 'b' || source.hasChar first 'c') then
      (scanRawStart source first).map fun (last, hashes) =>
        { symbol := rawStart, first, last, state := [hashes] }
    else if valid rawContent then
      (scanRawContent source hashes (source.size + 1) first).map (found first rawContent)
    else if valid rawEnd && source.hasChar first '"' then
      some (found first rawEnd (advance source (hashes + 1) first))
    else if valid floatLiteral && isDigit (source.code first) then
      (scanFloat source first).map (found first floatLiteral)
    else none

end SourceIndex.RawTextScanner
