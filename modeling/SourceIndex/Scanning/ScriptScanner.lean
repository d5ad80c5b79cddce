import SourceIndex.Lexing.Scanner

set_option autoImplicit false

namespace SourceIndex.ScriptScanner

/-- Which of the two languages is scanned; they differ in where a line end implies a semicolon. -/
inductive Dialect where
  | plain
  | typed
deriving BEq, DecidableEq

/-- The numbers of the external tokens. -/
def automaticSemicolon : Nat := 0
def templateChars : Nat := 1
def ternaryMark : Nat := 2
def htmlComment : Nat := 3
def logicalOr : Nat := 4
def escapeSequence : Nat := 5
def regexPattern : Nat := 6
def jsxText : Nat := 7
def signatureSemicolon : Nat := 8

def isBlank (code : Nat) : Bool := code == 32 || (9 ≤ code && code ≤ 13)

def isDigit (code : Nat) : Bool := 48 ≤ code && code ≤ 57

def isLetter (code : Nat) : Bool := (65 ≤ code && code ≤ 90) || (97 ≤ code && code ≤ 122)

def isLineSeparator (code : Nat) : Bool := code == 0x2028 || code == 0x2029

def isLineEnd (code : Nat) : Bool := code == 10 || isLineSeparator code

def charAt (source : Source) (offset : Nat) : Char := Char.ofNat (source.code offset)

/-- Template text goes up to a backtick, a backslash or the start of a substitution. The text ends
at the last place that was marked, which a lone dollar sign moves on from. -/
def scanTemplate (source : Source) (first : Nat) : Nat → Nat → Bool → Option Scanned
  | 0, _, _ => none
  | fuel + 1, offset, hasContent =>
    let done : Option Scanned :=
      if hasContent then some { symbol := templateChars, first, last := offset } else none
    let next := source.next offset
    match source.code offset with
    | 0x60 => done
    | 0 => none
    | 0x24 =>
      if source.hasChar next '\x7b' then done else scanTemplate source first fuel next true
    | 0x5C => done
    | _ => scanTemplate source first fuel next true

/-- How blanks and comments ended. -/
inductive Gap where
  /-- A slash that starts no comment. -/
  | slash (offset : Nat)
  /-- After a block comment without line end. -/
  | sameLine (offset : Nat)
  | passed (offset : Nat)

structure BlockComment where
  offset : Nat
  sawNewline : Bool
  closed : Bool

def skipBlock (source : Source) (lineEnd : Nat → Bool) : Nat → Nat → Bool → BlockComment
  | 0, offset, sawNewline => ⟨offset, sawNewline, false⟩
  | fuel + 1, offset, sawNewline =>
    let code := source.code offset
    let next := source.next offset
    if code == 0 then ⟨offset, sawNewline, false⟩
    else if code == 0x2A then
      if source.hasChar next '/' then ⟨source.next next, sawNewline, true⟩
      else skipBlock source lineEnd fuel next sawNewline
    else skipBlock source lineEnd fuel next (sawNewline || lineEnd code)

def skipLineComment (source : Source) (dialect : Dialect) (offset : Nat) : Nat :=
  source.skip (fun code => code != 0 &&
    !(if dialect == .plain then isLineEnd code else code == 10)) offset

/-- Passes blanks and comments. With `whole` unset, a block comment that no slash follows ends the
search, in the plain dialect. Also tells whether a comment was passed. -/
def skipGap (source : Source) (dialect : Dialect) (whole : Bool) :
    Nat → Nat → Bool → Bool → Gap × Bool
  | 0, offset, _, commented => (.passed offset, commented)
  | fuel + 1, offset, sawNewline, commented =>
    let offset := source.skip isBlank offset
    if source.hasChar offset '/' then
      let next := source.next offset
      if source.hasChar next '/' then
        skipGap source dialect whole fuel (skipLineComment source dialect (source.next next))
          sawNewline true
      else if source.hasChar next '*' then
        let block := skipBlock source isLineEnd (source.size + 1) (source.next next) sawNewline
        if block.closed then
          if dialect == .plain && !whole && !source.hasChar block.offset '/' then
            (if block.sawNewline then .passed block.offset else .sameLine block.offset, true)
          else skipGap source dialect whole fuel block.offset block.sawNewline true
        else skipGap source dialect whole fuel block.offset block.sawNewline commented
      else (.slash next, commented)
    else (.passed offset, commented)

/-- The answer for a semicolon: whether one is implied, where the search stopped, and whether a
comment was passed. -/
structure Implied where
  holds : Bool
  offset : Nat
  commented : Bool

def startsRelation (source : Source) (offset : Nat) : Bool :=
  let next := source.next offset
  if !source.hasChar next 'n' then false
  else
    let after := source.next next
    if !isLetter (source.code after) then true
    else if source.hasPrefix after "stanceof".toList then
      !isLetter (source.code (after + 8))
    else false

/-- Whether the first character after a line end lets the line end imply a semicolon. -/
def impliedBefore (source : Source) (dialect : Dialect) (valid : Nat → Bool) (offset : Nat) :
    Bool :=
  let next := source.next offset
  let plain := dialect == .plain
  match charAt source offset with
  | '`' | ',' | ':' | ';' | '*' | '%' | '>' | '<' | '=' | '?' | '^' | '|' | '&' | '/' => false
  | '[' | '(' => if plain then false else !valid logicalOr
  | '.' => if plain then isDigit (source.code next) else false
  | '\x7b' => plain || !valid signatureSemicolon
  | '+' => source.hasChar next '+'
  | '-' => source.hasChar next '-'
  | '!' => !source.hasChar next '='
  | 'i' => !startsRelation source offset
  | _ => true

def impliedAfterLine (source : Source) (dialect : Dialect) (valid : Nat → Bool) (offset : Nat)
    (commented : Bool) : Implied :=
  match skipGap source dialect true (source.size + 1) offset false commented with
  | (.slash offset, commented) => ⟨false, offset, commented⟩
  | (.sameLine offset, commented) | (.passed offset, commented) =>
    ⟨impliedBefore source dialect valid offset, offset, commented⟩

/-- Whether a closing brace implies a semicolon: not if a type annotation follows it. -/
def impliedAtBrace (source : Source) (dialect : Dialect) (valid : Nat → Bool) (offset : Nat)
    (commented : Bool) : Implied :=
  match dialect with
  | .plain => ⟨true, offset, commented⟩
  | .typed =>
    let after := source.skip isBlank (source.next offset)
    ⟨if source.hasChar after ':' then valid logicalOr else true, after, commented⟩

def impliedFrom (source : Source) (dialect : Dialect) (valid : Nat → Bool) :
    Nat → Nat → Bool → Implied
  | 0, offset, commented => ⟨false, offset, commented⟩
  | fuel + 1, offset, commented =>
    let code := source.code offset
    if code == 0 then ⟨true, offset, commented⟩
    else
      let gap := if dialect == .plain && code == 0x2F then
          skipGap source dialect false (source.size + 1) offset false commented
        else (.sameLine offset, commented)
      match gap with
      | (.slash offset, commented) => ⟨false, offset, commented⟩
      | (.passed offset, commented) =>
        if !valid logicalOr && !source.hasChar offset ',' && !source.hasChar offset '=' then
          ⟨true, offset, commented⟩
        else impliedHere fuel offset commented
      | (.sameLine offset, commented) => impliedHere fuel offset commented
where
  impliedHere (fuel offset : Nat) (commented : Bool) : Implied :=
    let code := source.code offset
    if code == 0x7D then impliedAtBrace source dialect valid offset commented
    else if (if dialect == .plain then isLineEnd code else code == 10) then
      impliedAfterLine source dialect valid (source.next offset) commented
    else if isBlank code then impliedFrom source dialect valid fuel (source.next offset) commented
    else ⟨false, offset, commented⟩

/-- The question mark of a conditional, as against the other operators that start with one. -/
def scanTernary (source : Source) (dialect : Dialect) (offset : Nat) : Option Scanned :=
  let first := source.skip isBlank offset
  if source.hasChar first '?' then
    let last := source.next first
    let found : Scanned := { symbol := ternaryMark, first, last }
    if source.hasChar last '?' then none
    else
      let after := if dialect == .typed then source.skip isBlank last else last
      if dialect == .typed && (source.hasChar after ':' || source.hasChar after ')' ||
          source.hasChar after ',') then none
      else if source.hasChar after '.' then
        if isDigit (source.code (source.next after)) then some found else none
      else some found
  else none

def scanHtmlComment (source : Source) (start offset : Nat) : Option Scanned :=
  let first := source.skip (fun code => isBlank code || isLineSeparator code) offset
  let body :=
    if source.hasPrefix first "<!--".toList then some (first + 4)
    else if source.hasPrefix first "-->".toList then some (first + 3)
    else none
  body.map fun body =>
    { symbol := htmlComment
      first := if first == offset then start else first
      last := source.skip (fun code => code != 0 && !isLineEnd code) body }

/-- Passes text between tags; it counts only if it is more than line ends and indentation. -/
def skipText (source : Source) : Nat → Nat → Bool → Bool → Nat × Bool
  | 0, offset, _, sawText => (offset, sawText)
  | fuel + 1, offset, atNewline, sawText =>
    let code := source.code offset
    if code == 0 || "<>\x7b\x7d&".toList.any (fun c => c.toNat == code) then (offset, sawText)
    else if code == 10 then skipText source fuel (source.next offset) true sawText
    else
      let atNewline := atNewline && isBlank code
      skipText source fuel (source.next offset) atNewline (sawText || !atNewline)

def scanner (dialect : Dialect) : Scanner := fun source valid _ start =>
  let fuel := source.size + 1
  if valid templateChars then
    if valid automaticSemicolon then none else scanTemplate source start fuel start false
  else
    let (textEnd, sawText) :=
      if valid jsxText then skipText source fuel start false false else (start, false)
    if sawText then some { symbol := jsxText, first := start, last := textEnd }
    else if valid automaticSemicolon || (dialect == .typed && valid signatureSemicolon) then
      let implied := impliedFrom source dialect valid fuel textEnd false
      if implied.holds then
        some { symbol := automaticSemicolon, first := textEnd, last := textEnd }
      else if !implied.commented && valid ternaryMark && source.hasChar implied.offset '?' then
        scanTernary source dialect implied.offset
      else none
    else if valid ternaryMark then scanTernary source dialect textEnd
    else if valid htmlComment && !valid logicalOr && !valid escapeSequence &&
        !valid regexPattern then
      scanHtmlComment source start textEnd
    else none

end SourceIndex.ScriptScanner
