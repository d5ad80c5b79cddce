import SourceIndex.Grammar.Go
import SourceIndex.Grammar.JavaScript
import SourceIndex.Grammar.Python
import SourceIndex.Grammar.Rust
import SourceIndex.Grammar.TypeScript
import SourceIndex.Language
import SourceIndex.Parsing.Parser
import SourceIndex.Scanning.IndentScanner
import SourceIndex.Scanning.RawTextScanner
import SourceIndex.Scanning.ScriptScanner
import SourceIndex.Syntax.Visible

set_option autoImplicit false

namespace SourceIndex

/-- A grammar made ready for parsing. The table is made when it is first needed. -/
structure Reader where
  table : Thunk ParseTable
  scanner : Scanner

namespace Reader

def ofGrammar (grammar : Grammar) (scanner : Scanner) : Reader :=
  ⟨Thunk.mk fun _ => ParseTable.ofTables (Tables.ofGrammar grammar), scanner⟩

/-- The tree of a text. A text that fits no rule has one too, with the faults marked. -/
def read (reader : Reader) (source : Source) : Node :=
  let table := reader.table.get
  (table.parse reader.scanner source).toNode table.tables

def go : Reader := .ofGrammar GoGrammar.grammar Scanner.none

def javaScript : Reader := .ofGrammar JavaScriptGrammar.grammar (ScriptScanner.scanner .plain)

def typeScript : Reader :=
  .ofGrammar (TypeScriptGrammar.grammar false) (ScriptScanner.scanner .typed)

def tsx : Reader := .ofGrammar (TypeScriptGrammar.grammar true) (ScriptScanner.scanner .typed)

def python : Reader := .ofGrammar PythonGrammar.grammar IndentScanner.scanner

def rust : Reader := .ofGrammar RustGrammar.grammar RawTextScanner.scanner

end Reader

def Language.reader : Language → Reader
  | .go => .go
  | .javaScript => .javaScript
  | .typeScript => .typeScript
  | .tsx => .tsx
  | .python => .python
  | .rust => .rust

def Language.syntaxTree (language : Language) (text : List Char) : Node :=
  language.reader.read (Source.ofString (String.ofList text))

end SourceIndex
