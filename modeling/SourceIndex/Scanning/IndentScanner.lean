import SourceIndex.Lexing.Scanner

/-
The external tokens of Python: line ends, indentation, and the parts of strings.

Between tokens the scanner remembers the widths of the open blocks and the kinds of the open
strings.
-/

set_option autoImplicit false

namespace SourceIndex.IndentScanner

/-- The numbers of the external tokens. -/
def newline : Nat := 0
def indent : Nat := 1
def dedent : Nat := 2
def stringStart : Nat := 3
def stringContent : Nat := 4
def escapedBrace : Nat := 5
def stringEnd : Nat := 6
def closeBracket : Nat := 8
def closeParen : Nat := 9
def closeBrace : Nat := 10
def exceptWord : Nat := 11

/-- How an open string was begun. -/
structure Quote where
  mark : Nat
  raw : Bool := false
  format : Bool := false
  bytes : Bool := false
  triple : Bool := false
deriving BEq, DecidableEq, Inhabited

namespace Quote

def noMark : Quote := { mark := 0 }

def flag (set : Bool) (weight : Nat) : Nat := if set then weight else 0

/-- One number for a quote: the mark and then one bit for each property. -/
def toNat (quote : Quote) : Nat :=
  quote.mark * 16 + flag quote.raw 1 + flag quote.format 2 + flag quote.bytes 4 +
    flag quote.triple 8

def ofNat (code : Nat) : Quote :=
  { mark := code / 16, raw := code.testBit 0, format := code.testBit 1,
    bytes := code.testBit 2, triple := code.testBit 3 }

end Quote

/-- What the scanner remembers: innermost block and string first. -/
structure Memory where
  inFormat : Bool := false
  quotes : List Quote := []
  widths : List Nat := [0]
deriving BEq, Inhabited

namespace Memory

/-- The widths are kept without the outermost one, which is always zero. -/
def toState (memory : Memory) : ScanState :=
  Quote.flag memory.inFormat 1 :: memory.quotes.length ::
    (memory.quotes.map Quote.toNat ++ memory.widths.dropLast)

def ofState : ScanState → Memory
  | inFormat :: count :: rest =>
    { inFormat := inFormat != 0
      quotes := (rest.take count).map Quote.ofNat
      widths := rest.drop count ++ [0] }
  | _ => {}

end Memory

/-- The answer to a part of the scan: a verdict, or an offset at which to look for other tokens. -/
inductive Step where
  | done (found : Option Scanned)
  | goOn (offset : Nat)

def closed (memory : Memory) : Memory :=
  { memory with quotes := memory.quotes.drop 1, inFormat := false }

/-- Passes a backslash in a raw string, an escaped quote or backslash, and a line end. -/
def skipRawEscape (source : Source) (quote : Quote) (offset : Nat) : Nat :=
  let offset := source.next offset
  let code := source.code offset
  let offset := if code == quote.mark || code == 0x5C then source.next offset else offset
  if source.hasChar offset '\r' then
    let after := source.next offset
    if source.hasChar after '\n' then source.next after else after
  else if source.hasChar offset '\n' then source.next offset
  else offset

/-- At the closing mark of a string. Of one or two marks inside a triple string, the content takes
those that were looked past. -/
def atMark (source : Source) (memory : Memory) (quote : Quote) (first offset : Nat)
    (hasContent : Bool) : Scanned :=
  let content (last : Nat) : Scanned :=
    { symbol := stringContent, first, last, state := memory.toState }
  let finish (last : Nat) : Scanned :=
    { symbol := stringEnd, first, last, state := (closed memory).toState }
  let next := source.next offset
  if quote.triple then
    if source.code next == quote.mark then
      let third := source.next next
      if source.code third == quote.mark then
        if hasContent then content offset else finish (source.next third)
      else content third
    else content next
  else if hasContent then content offset
  else finish next

def scanContent (source : Source) (memory : Memory) (quote : Quote) (first : Nat) :
    Nat → Nat → Bool → Step
  | 0, offset, _ => .goOn offset
  | fuel + 1, offset, hasContent =>
    let code := source.code offset
    let content : Step := .done <|
      if hasContent then
        some { symbol := stringContent, first, last := offset, state := memory.toState }
      else none
    if code == 0 then .goOn offset
    else if (code == 0x7B || code == 0x7D) && quote.format then content
    else if code == 0x5C then
      if quote.raw then
        scanContent source memory quote first fuel (skipRawEscape source quote offset) hasContent
      else if quote.bytes then
        let next := source.next offset
        if source.hasChar next 'N' || source.hasChar next 'u' || source.hasChar next 'U' then
          scanContent source memory quote first fuel (source.next (source.next next)) true
        else content
      else content
    else if code == quote.mark then
      .done (some (atMark source memory quote first offset hasContent))
    else if code == 10 && hasContent && !quote.triple then .done none
    else scanContent source memory quote first fuel (source.next offset) true

/-- What stands before the next token: whether a line ended, how far the token is indented, and
how far the first comment on a line of its own is indented. -/
structure Margin where
  offset : Nat
  ended : Bool := false
  width : Nat := 0
  comment : Option Nat := none

/-- Widths are kept in 16 bits. -/
def widen (width amount : Nat) : Nat := (width + amount) % 65536

/-- Passes blanks, joined lines and, if `comments`, comments on lines of their own. None if no
token is to be looked for. -/
def scanMargin (source : Source) (comments : Bool) : Nat → Margin → Option Margin
  | 0, margin => some margin
  | fuel + 1, margin =>
    let code := source.code margin.offset
    let next := source.next margin.offset
    if code == 10 then
      scanMargin source comments fuel { margin with offset := next, ended := true, width := 0 }
    else if code == 32 then
      scanMargin source comments fuel
        { margin with offset := next, width := widen margin.width 1 }
    else if code == 13 || code == 12 then
      scanMargin source comments fuel { margin with offset := next, width := 0 }
    else if code == 9 then
      scanMargin source comments fuel
        { margin with offset := next, width := widen margin.width 8 }
    else if code == 0x23 && comments then
      if margin.ended then
        let lineEnd := source.skip (fun code => code != 0 && code != 10) margin.offset
        scanMargin source comments fuel
          { margin with
            offset := source.next lineEnd, width := 0,
            comment := margin.comment <|> some margin.width }
      else none
    else if code == 0x5C then
      let next := if source.hasChar next '\r' then source.next next else next
      if source.hasChar next '\n' || source.atEnd next then
        scanMargin source comments fuel { margin with offset := source.next next }
      else none
    else if source.atEnd margin.offset then some { margin with ended := true, width := 0 }
    else some margin

def isQuoteMark (code : Nat) : Bool := code == 0x22 || code == 0x27 || code == 0x60

/-- The letters before a string's mark, with the properties they stand for. -/
def scanLetters (source : Source) : Nat → Nat → Quote → Nat × Quote
  | 0, offset, quote => (offset, quote)
  | fuel + 1, offset, quote =>
    let next := source.next offset
    match Char.ofNat (source.code offset) with
    | 'f' | 'F' => scanLetters source fuel next { quote with format := true }
    | 'r' | 'R' => scanLetters source fuel next { quote with raw := true }
    | 'b' | 'B' => scanLetters source fuel next { quote with bytes := true }
    | 'u' | 'U' => scanLetters source fuel next quote
    | _ => (offset, quote)

def scanStart (source : Source) (memory : Memory) (first : Nat) : Option Scanned :=
  let (offset, quote) := scanLetters source (source.size + 1) first Quote.noMark
  let mark := source.code offset
  if isQuoteMark mark then
    let second := source.next offset
    let third := source.next second
    let triple := mark != 0x60 && source.code second == mark && source.code third == mark
    let quote := { quote with mark, triple }
    let memory :=
      { memory with quotes := quote :: memory.quotes, inFormat := quote.format }
    some {
      symbol := stringStart, first
      last := if triple then source.next third else second
      state := memory.toState }
  else none

/-- The token that a line end stands for at the given margin, if any. -/
def scanLineEnd (source : Source) (valid : Nat → Bool) (memory : Memory) (recovering : Bool)
    (margin : Margin) (token : Nat → Memory → Scanned) : Option Scanned :=
  let width := memory.widths.headD 0
  let beforeString := valid stringStart && isQuoteMark (source.code margin.offset)
  let inBrackets := valid closeBrace || valid closeParen || valid closeBracket
  if valid indent && width < margin.width then
    some (token indent { memory with widths := margin.width :: memory.widths })
  else if (valid dedent || (!valid newline && !beforeString && !inBrackets)) &&
      margin.width < width && !memory.inFormat &&
      (margin.comment.all fun comment => comment < width) then
    some (token dedent { memory with widths := memory.widths.drop 1 })
  else if valid newline && !recovering then some (token newline memory)
  else none

/-- A line end, a change of indentation or the start of a string after the offset `mark`. -/
def scanLayout (source : Source) (valid : Nat → Bool) (memory : Memory) (recovering : Bool)
    (start mark : Nat) : Option Scanned :=
  let comments := valid indent || valid dedent || valid newline || valid exceptWord
  match scanMargin source comments (source.size + 1) { offset := mark } with
  | none => none
  | some margin =>
    let first := if margin.offset == mark then start else mark
    let token (symbol : Nat) (memory : Memory) : Scanned :=
      { symbol, first, last := mark, state := memory.toState }
    let ofLine :=
      if margin.ended && !memory.widths.isEmpty then
        scanLineEnd source valid memory recovering margin token
      else none
    match ofLine with
    | some found => some found
    | none =>
      if margin.comment.isNone && valid stringStart then
        scanStart source memory (if margin.offset == mark then start else margin.offset)
      else none

def scanner : Scanner := fun source valid state start =>
  let memory := Memory.ofState state
  let recovering := valid stringContent && valid indent
  match memory.quotes, recovering with
  | quote :: _, false =>
    let code := source.code start
    if valid escapedBrace && (code == 0x7B || code == 0x7D) && quote.format then
      let second := source.next start
      if source.code second == code then
        some {
          symbol := escapedBrace, first := start, last := source.next second,
          state := memory.toState }
      else none
    else if valid stringContent then
      match scanContent source memory quote start (source.size + 1) start false with
      | .done found => found
      | .goOn mark => scanLayout source valid memory recovering start mark
    else scanLayout source valid memory recovering start start
  | _, _ => scanLayout source valid memory recovering start start

end SourceIndex.IndentScanner
