import SourceIndex.Chunk
import SourceIndex.Syntax.Cursor
import SourceIndex.Text.Blank
import SourceIndex.Text.LineEnds

set_option autoImplicit false

namespace SourceIndex

/-- A chunkable node: where it lies, and where the name it declares lies. -/
structure Declaration where
  kind : String
  first : Nat
  last : Nat
  startLine : Nat
  endLine : Nat
  symbol : Option (Nat × Nat)
deriving DecidableEq, Repr, Inhabited

namespace Declaration

def ofNode (language : Language) (node : Node) : Declaration where
  kind := node.data.kind
  first := node.data.first.byte
  last := node.data.last.byte
  startLine := node.data.first.row + 1
  endLine := node.data.last.row + 1
  symbol := ((language.symbolField? node.data.kind).bind node.child?).map fun name =>
    (name.data.first.byte, name.data.last.byte)

def qualifies (language : Language) (node : Node) : Bool :=
  node.data.named && language.isChunkable node.data.kind

/-- The declarations of a tree in the order of the text, nested ones included. -/
def ofTree (language : Language) (tree : Node) : List Declaration :=
  ((Cursor.ofRoot tree).collect (qualifies language) []).map (ofNode language)

end Declaration

/-- A text that its language does not allow, with the line near the first fault. -/
structure SyntaxFault where
  line : Nat
deriving DecidableEq, Repr, Inhabited

def SyntaxFault.message (fault : SyntaxFault) : String :=
  "syntax error near line " ++ toString fault.line

def SyntaxFault.ofTree (tree : Node) : SyntaxFault :=
  match (Cursor.ofRoot tree).firstFault? with
  | some node => ⟨node.data.first.row + 1⟩
  | none => ⟨1⟩

/-- The declarations of a text, given its tree; unless `tolerant`, the tree must be without
faults. -/
def declarations (language : Language) (tolerant : Bool) (tree : Node) :
    Except SyntaxFault (List Declaration) :=
  if tree.data.hasError && !tolerant then .error (SyntaxFault.ofTree tree)
  else .ok (Declaration.ofTree language tree)

/-- The chunks of a text, and how many declarations gave none. -/
structure Extraction where
  chunks : List Chunk
  dropped : Nat
deriving DecidableEq, Repr, Inhabited

namespace Extraction

/-- The name that a declaration gives, without blanks around it. -/
def symbolOf? (text : List Char) (declaration : Declaration) : Option (List Char) :=
  ((declaration.symbol.bind fun (first, last) => Text.sliceBytes? text first last).map
    Text.trim).filter fun name => !name.isEmpty

/-- The chunk of the declaration with the number `index`, cut out of the text as it was before
sanitizing. Blank code gives none, and a declaration without a name goes by its number. -/
def chunk? (language : Language) (path : String) (text : List Char)
    (declaration : Declaration) (index : Nat) : Option Chunk := do
  let code ← Text.sliceBytes? text declaration.first declaration.last
  if code.all Text.isBlank then none
  else
    let symbol := match symbolOf? text declaration with
      | some name => String.ofList name
      | none => "anonymous_" ++ toString index
    return {
      id := Chunk.idOf index
      file := path
      code := String.ofList code
      startLine := declaration.startLine
      endLine := declaration.endLine
      symbol := symbol
      kind := declaration.kind
      language := some language.id
      origin := some .syntaxTree }

def ofDeclarations (language : Language) (path : String) (text : List Char)
    (found : List Declaration) : Extraction :=
  let chunks := found.zipIdx.filterMap fun (declaration, index) =>
    chunk? language path text declaration index
  ⟨chunks, found.length - chunks.length⟩

/-- The chunks of a text. The tree is that of the sanitized text, as `parse` gives it. -/
def ofText (parse : Language → List Char → Node) (language : Language) (tolerant : Bool)
    (path : String) (text : List Char) : Except SyntaxFault Extraction := do
  let found ← declarations language tolerant (parse language (LineEnds.sanitize language text))
  return ofDeclarations language path text found

/-- The chunks alone, for those who do not ask how many declarations gave none. -/
def chunksOfText (parse : Language → List Char → Node) (language : Language) (tolerant : Bool)
    (path : String) (text : List Char) : Except SyntaxFault (List Chunk) :=
  (ofText parse language tolerant path text).map Extraction.chunks

end Extraction

end SourceIndex
