import SourceIndex.Language
import SourceIndex.Text.Lossy

set_option autoImplicit false

namespace SourceIndex.LineEnds

/-- What stands for a character, told by the one after it: a carriage return is a blank before a
line feed and a line feed elsewhere. -/
def unified (c : Char) (next : Option Char) : Char :=
  if c != '\r' then c
  else if next == some '\n' then ' '
  else '\n'

/-- Every line end becomes a line feed; the text keeps its length. -/
def unify (text : List Char) : List Char :=
  (text.foldr (fun c (next, later) => (some c, unified c next :: later))
    ((none, []) : Option Char × List Char)).2

/-- Whether the text opens with the name of an interpreter; `#![` opens an attribute. -/
def hasInterpreterLine (text : List Char) : Bool :=
  ['#', '!'].isPrefixOf text && !(['#', '!', '[']).isPrefixOf text

def blanks (text : List Char) : List Char := List.replicate (Text.byteCount text) ' '

/-- The text as it is given to the parser of the language: a line that names an interpreter is
blanked, up to the first line feed, and line ends are unified. -/
def sanitize (language : Language) (text : List Char) : List Char :=
  if language.blanksInterpreterLine && hasInterpreterLine text then
    blanks (text.takeWhile (· != '\n')) ++ unify (text.dropWhile (· != '\n'))
  else unify text

end SourceIndex.LineEnds
