import SourceIndex.Text.Lossy
import SourceIndex.Text.Search

set_option autoImplicit false

namespace SourceIndex

/-- A path or a name in it. The system asks for bytes; most of them are those of a text. -/
abbrev PathName := List UInt8

instance : Coe String PathName := ⟨Text.encode⟩

namespace PathName

def slash : UInt8 := 0x2F

def dot : UInt8 := 0x2E

/-- The path as it is shown, with U+FFFD for what is no text in it. -/
def display (path : PathName) : String := String.ofList (Text.decodeLossy path)

/-- The segments that name something: empty ones and single dots are left out. -/
def segments (path : PathName) : List PathName :=
  (Text.pieces slash path).filter fun part => !part.isEmpty && part != [dot]

/-- The last segment. A path that is empty, only dots or slashes, or that ends in `..` has none. -/
def fileName? (path : PathName) : Option PathName :=
  match (segments path).getLast? with
  | some name => if name == [dot, dot] then none else some name
  | none => none

/-- What follows the last dot of the name. A name has no extension if its only dot opens it. -/
def extension? (path : PathName) : Option PathName :=
  match fileName? path with
  | none => none
  | some name =>
    let ending := Text.lastPiece dot name
    if ending.length + 1 < name.length then some ending else none

def isAbsolute (path : PathName) : Bool := path.head? == some slash

/-- The path of an entry under `base`: an absolute one stands alone, and a slash is put between
the two unless the base is empty or ends in one. -/
def join (base entry : PathName) : PathName :=
  if isAbsolute entry then entry
  else if base.isEmpty || base.getLast? == some slash then base ++ entry
  else base ++ slash :: entry

/-- The path as it is shown, with backslashes counted as separators. -/
def normalized (path : PathName) : List Char :=
  (Text.decodeLossy path).map fun c => if c == '\\' then '/' else c

end PathName

end SourceIndex
