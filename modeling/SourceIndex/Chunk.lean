import SourceIndex.Text.Search

set_option autoImplicit false

namespace SourceIndex

/-- How a chunk was cut out of its file. -/
inductive Origin where
  /-- One chunk for each chunkable node of the syntax tree. -/
  | syntaxTree
deriving DecidableEq, Repr, Inhabited

/-- A unit of source code as it is kept in the store. -/
structure Chunk where
  /-- The word `chunk_` and the number of the unit in its file. -/
  id : String
  file : String
  code : String
  /-- The first line, counted from one. -/
  startLine : Nat
  /-- The last line, which belongs to the chunk. -/
  endLine : Nat
  symbol : String
  kind : String
  language : Option String := none
  origin : Option Origin := none
deriving DecidableEq, Repr, Inhabited

/-- The bound of the numbers that a record can hold. -/
def wordBound : Nat := Nat.pow 2 64

def digitValue? (c : Char) : Option Nat :=
  if '0' ≤ c ∧ c ≤ '9' then some (c.toNat - '0'.toNat) else none

def decimalValue? (digits : List Char) : Option Nat :=
  if digits.isEmpty then none
  else digits.foldl (fun value c => do return (← value) * 10 + (← digitValue? c)) (some 0)

/-- The number that a text spells in decimal. A plus sign may lead, and zeros; a number that does
not fit a word is none. -/
def wordOf? (text : String) : Option Nat :=
  let digits := match text.toList with
    | '+' :: rest => rest
    | characters => characters
  (decimalValue? digits).filter (· < wordBound)

namespace Chunk

def idLead : String := "chunk_"

def idOf (number : Nat) : String := idLead ++ toString number

/-- The number in the id of the chunk, if it has the usual form. -/
def number? (chunk : Chunk) : Option Nat := (Text.dropLead? idLead chunk.id).bind wordOf?

end Chunk

end SourceIndex
