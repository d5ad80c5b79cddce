import SourceIndex.Number.Shortest

set_option autoImplicit false

namespace SourceIndex

inductive Json where
  | null
  | bool (value : Bool)
  | integer (value : Int)
  /-- A number of 64 bits. -/
  | double (value : Floating)
  /-- A number of 32 bits. -/
  | single (value : Floating)
  | string (value : String)
  | array (items : List Json)
  /-- Members in the order in which they are written. -/
  | object (members : List (String × Json))
deriving Inhabited

namespace Json

def natural (n : Nat) : Json := .integer n

def strings (texts : List String) : Json := .array (texts.map .string)

def ofOption {α : Type} (encode : α → Json) : Option α → Json
  | some value => encode value
  | none => .null

def member? (name : String) : Json → Option Json
  | object members => (members.find? fun (key, _) => key == name).map (·.2)
  | _ => none

def isNull : Json → Bool
  | null => true
  | _ => false

def hexDigit (n : Nat) : Char :=
  if n < 10 then Char.ofNat ('0'.toNat + n) else Char.ofNat ('a'.toNat + (n - 10))

/-- A character of a string: quotes, backslashes and control characters are escaped. -/
def escaped (c : Char) : List Char :=
  if c == '"' then ['\\', '"']
  else if c == '\\' then ['\\', '\\']
  else if c == '\x08' then ['\\', 'b']
  else if c == '\x0c' then ['\\', 'f']
  else if c == '\n' then ['\\', 'n']
  else if c == '\r' then ['\\', 'r']
  else if c == '\t' then ['\\', 't']
  else if c.toNat < 0x20 then
    ['\\', 'u', '0', '0', hexDigit (c.toNat / 16), hexDigit (c.toNat % 16)]
  else [c]

def quoted (text : List Char) : List Char := '"' :: text.flatMap escaped ++ ['"']

def renderInteger (value : Int) : List Char :=
  if value < 0 then '-' :: decimalDigits value.natAbs else decimalDigits value.natAbs

def renderFloating (format : FloatFormat) (style : DecimalStyle) (value : Floating) : List Char :=
  (value.render? format style).getD "null".toList

/-- How the parts of a value are set apart: `none` puts them on one line, and `some depth` puts
each on a line of its own, indented by two blanks a level. -/
abbrev Layout := Option Nat

def Layout.inner (layout : Layout) : Layout := layout.map (· + 1)

def Layout.newLine : Layout → List Char
  | none => []
  | some depth => '\n' :: List.replicate (2 * depth) ' '

def Layout.colon : Layout → List Char
  | none => [':']
  | some _ => [':', ' ']

mutual

def render (layout : Layout) : Json → List Char
  | null => "null".toList
  | bool true => "true".toList
  | bool false => "false".toList
  | integer value => renderInteger value
  | double value => renderFloating .double .double value
  | single value => renderFloating .single .single value
  | string value => quoted value.toList
  | array [] => ['[', ']']
  | array (item :: items) =>
    '[' :: layout.inner.newLine ++ render layout.inner item ++ renderItems layout items
  | object [] => ['\x7b', '\x7d']
  | object ((name, value) :: members) =>
    '\x7b' :: layout.inner.newLine ++ quoted name.toList ++ layout.colon ++
      render layout.inner value ++ renderMembers layout members

/-- The items after the first, and the bracket that closes the array. -/
def renderItems (layout : Layout) : List Json → List Char
  | [] => layout.newLine ++ [']']
  | item :: items =>
    ',' :: layout.inner.newLine ++ render layout.inner item ++ renderItems layout items

/-- The members after the first, and the brace that closes the object. -/
def renderMembers (layout : Layout) : List (String × Json) → List Char
  | [] => layout.newLine ++ ['\x7d']
  | (name, value) :: members =>
    ',' :: layout.inner.newLine ++ quoted name.toList ++ layout.colon ++
      render layout.inner value ++ renderMembers layout members

end

def compact (value : Json) : String := String.ofList (value.render none)

def pretty (value : Json) : String := String.ofList (value.render (some 0))

end Json

end SourceIndex
