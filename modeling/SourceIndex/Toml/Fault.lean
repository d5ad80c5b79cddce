import SourceIndex.Text.Search
import SourceIndex.Toml.Item

set_option autoImplicit false

namespace SourceIndex.Toml

structure Fault where
  /-- What is left of the text at the place of the fault. -/
  rest : List Char
  /-- Whether no other reading of the text is tried. -/
  final : Bool := false
  /-- What the text seemed to be. -/
  label : Option String := none
  expected : List String := []
  cause : Option String := none
deriving Repr, Inhabited

namespace Fault

def within (label : String) (fault : Fault) : Fault :=
  { fault with label := some (fault.label.getD label) }

def expecting (what : List String) (fault : Fault) : Fault :=
  { fault with expected := fault.expected ++ what }

def commit (fault : Fault) : Fault := { fault with final := true }

def lines (fault : Fault) : List String :=
  (match fault.label with
    | some label => ["invalid " ++ label]
    | none => []) ++
  (if fault.expected.isEmpty then [] else ["expected " ++ ", ".intercalate fault.expected]) ++
  (match fault.cause with
    | some cause => [cause]
    | none => [])

def message (fault : Fault) : String := "\n".intercalate fault.lines

end Fault

/-- Causes that lie in the structure of a document. -/
inductive Cause where
  | duplicateKey (key : String) (table : Option (List String))
  | extendsOther (path : List String) (kind : String)
  | outOfRange
  | tooDeep
deriving DecidableEq, Repr, Inhabited

def Cause.message : Cause → String
  | duplicateKey key none => "duplicate key " ++ Json.inTicks key
  | duplicateKey key (some []) => "duplicate key " ++ Json.inTicks key ++ " in document root"
  | duplicateKey key (some path) =>
    "duplicate key " ++ Json.inTicks key ++ " in table " ++ Json.inTicks (".".intercalate path)
  | extendsOther path kind =>
    "dotted key " ++ Json.inTicks (".".intercalate path) ++
      " attempted to extend non-table type (" ++ kind ++ ")"
  | outOfRange => "value is out of range"
  | tooDeep => "recursion limit exceeded"

/-- The number of bytes up to the place where `rest` is left of `text`. -/
def offsetOf (text rest : List Char) : Nat := Text.byteCount text - Text.byteCount rest

/-- The character at the place of a fault, or nothing at the end of the text. -/
def Fault.span (text : List Char) (fault : Fault) : Span :=
  let first := offsetOf text fault.rest
  ⟨first, first + (fault.rest.head?.map Char.utf8Size).getD 0⟩

/-- The line and the column of a byte, both counted from zero. A column is a number of characters;
the end of the text lies one past its last character. -/
def placeOf (text : List Char) (index : Nat) : Nat × Nat :=
  let size := Text.byteCount text
  if size == 0 then (0, index)
  else
    let inside := min index (size - 1)
    let before := (Text.takeBytes? inside text []).getD (text.take (text.length - 1))
    let line := before.count '\n'
    (line, (Text.lastPiece '\n' before).length + (index - inside))

def blanks (count : Nat) : String := String.ofList (List.replicate count ' ')

/-- A message under the line of the text that it is about, with marks below the bytes. -/
def report (text : List Char) (span : Span) (message : String) : String :=
  let (line, column) := placeOf text span.first
  let number := toString (line + 1)
  let content := (Text.pieces '\n' text).getD line []
  let marks := max 1 (min (span.last - span.first) (Text.byteCount content - column))
  let gutter := blanks (number.length + 1) ++ "|"
  "TOML parse error at line " ++ number ++ ", column " ++ toString (column + 1) ++ "\n" ++
    gutter ++ "\n" ++
    number ++ " | " ++ String.ofList content ++ "\n" ++
    gutter ++ blanks (column + 1) ++ String.ofList (List.replicate marks '^') ++ "\n" ++
    message ++ "\n"

def Fault.report (text : List Char) (fault : Fault) : String :=
  Toml.report text (fault.span text) fault.message

end SourceIndex.Toml
