import SourceIndex.Text.CharSet

set_option autoImplicit false

namespace SourceIndex

/-- A regular expression over code points. `ranked` gives the text it matches a precedence, which
decides between tokens that match the same text. -/
inductive Pattern where
  | chars (set : CharSet)
  | text (text : String)
  | seq (parts : List Pattern)
  | alt (choices : List Pattern)
  | many1 (part : Pattern)
  | opt (part : Pattern)
  | ranked (level : Int) (part : Pattern)
deriving BEq, Inhabited

namespace Pattern

instance : Coe CharSet Pattern := ⟨chars⟩

def many (part : Pattern) : Pattern := opt (many1 part)

def repeated (part : Pattern) (low high : Nat) : Pattern :=
  seq (List.replicate low part ++ List.replicate (high - low) (opt part))

def oneOf (text : String) : Pattern := chars (.ofString text)

def noneOf (text : String) : Pattern := chars (CharSet.ofString text).complement

def range (first last : Char) : Pattern := chars (.range first last)

def anyInLine : Pattern := noneOf "\n"

def digit : Pattern := range '0' '9'

def hexDigit : Pattern :=
  chars (CharSet.range '0' '9' ∪ CharSet.range 'a' 'f' ∪ CharSet.range 'A' 'F')

def blankSet : CharSet := .ofString "\t\n\x0b\x0c\r "

def blank : Pattern := chars blankSet

end Pattern

end SourceIndex
