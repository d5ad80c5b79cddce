import SourceIndex.Json.Fault

set_option autoImplicit false

namespace SourceIndex.Toml

/-- Bytes of a text, from the first up to but not including the last. -/
structure Span where
  first : Nat
  last : Nat
deriving DecidableEq, Repr, Inhabited

/-- A key as it reads and as it is written. -/
structure Key where
  name : String
  raw : String
  span : Span
deriving DecidableEq, Repr, Inhabited

inductive Scalar where
  | string (value : String)
  | integer (value : Int)
  /-- A floating-point number by its text in decimal. -/
  | float (text : String)
  | boolean (value : Bool)
  | dateTime
deriving DecidableEq, Repr, Inhabited

/-- How a table came to be: within braces, only as part of longer names, or by a dotted key. -/
structure TableForm where
  inBraces : Bool := false
  implicit : Bool := false
  dotted : Bool := false
  span : Option Span := none
deriving DecidableEq, Repr, Inhabited

inductive Item where
  | scalar (value : Scalar) (span : Span)
  | list (items : List Item) (span : Span)
  | table (form : TableForm) (entries : List (Key × Item))
  /-- Tables with one header in double brackets each. -/
  | tables (items : List Item)
deriving Inhabited

abbrev Entries := List (Key × Item)

namespace Item

/-- The place of an item; a table that no header or brace opens has none. -/
def span? : Item → Option Span
  | scalar _ span => some span
  | list _ span => some span
  | table form _ => form.span
  | tables items =>
    let tableSpan? : Item → Option Span
      | table form _ => form.span
      | _ => none
    match items.head?.bind tableSpan?, items.getLast?.bind tableSpan? with
    | some first, some last => some ⟨first.first, last.last⟩
    | _, _ => none

def kind : Item → String
  | scalar (.string _) _ => "string"
  | scalar (.integer _) _ => "integer"
  | scalar (.float _) _ => "float"
  | scalar (.boolean _) _ => "boolean"
  | scalar .dateTime _ => "datetime"
  | list _ _ => "array"
  | table form _ => if form.inBraces then "inline table" else "table"
  | tables _ => "array of tables"

/-- The item as what was found where something else was expected. -/
def found : Item → Json.Found
  | scalar (.string value) _ => .string value
  | scalar (.integer value) _ => .integer value
  | scalar (.float text) _ => .decimal text
  | scalar (.boolean value) _ => .bool value
  | scalar .dateTime _ => .map
  | list _ _ => .sequence
  | table _ _ => .map
  | tables _ => .sequence

end Item

end SourceIndex.Toml
