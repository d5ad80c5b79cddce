set_option autoImplicit false

namespace SourceIndex.Text

section

variable {α : Type} [BEq α]

def hasInfix (part : List α) : List α → Bool
  | [] => part.isEmpty
  | c :: rest => part.isPrefixOf (c :: rest) || hasInfix part rest

/-- The pieces between the occurrences of `separator`, at least one. -/
def pieces (separator : α) (text : List α) : List (List α) :=
  text.foldr
    (fun c parts => if c == separator then [] :: parts else
      match parts with
      | [] => [[c]]
      | part :: later => (c :: part) :: later)
    [[]]

/-- What follows the last `separator`, all of the text if there is none. -/
def lastPiece (separator : α) (text : List α) : List α :=
  (text.reverse.takeWhile (· != separator)).reverse

end

def contains (text part : String) : Bool := hasInfix part.toList text.toList

/-- Writes `value` for each occurrence of `part` and keeps all else, from left to right; `skip` is
the number of characters left of the occurrence met last. -/
def replaceFrom (part value : List Char) : Nat → List Char → List Char
  | _, [] => []
  | skip + 1, _ :: rest => replaceFrom part value skip rest
  | 0, c :: rest =>
    if part.isPrefixOf (c :: rest) then value ++ replaceFrom part value (part.length - 1) rest
    else c :: replaceFrom part value 0 rest

/-- Every occurrence of the nonempty `part` becomes `value`; what is written is not searched. -/
def replaceAll (text part value : String) : String :=
  String.ofList (replaceFrom part.toList value.toList 0 text.toList)

/-- The text up to each `separator`, which ends its piece; what follows the last one is a piece
only if it is not empty. -/
def closedPieces (separator : Char) (text : List Char) : List (List Char) :=
  text.foldr
    (fun c parts => if c == separator then [c] :: parts else
      match parts with
      | [] => [[c]]
      | part :: later => (c :: part) :: later)
    []

def dropLead? (lead : String) (text : String) : Option String :=
  if lead.toList.isPrefixOf text.toList then
    some (String.ofList (text.toList.drop lead.length))
  else none

end SourceIndex.Text
