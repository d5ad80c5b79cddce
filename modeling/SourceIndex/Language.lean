import SourceIndex.PathName

set_option autoImplicit false

namespace SourceIndex

inductive Language where
  | go
  | javaScript
  | typeScript
  | tsx
  | python
  | rust
deriving DecidableEq, Repr, Inhabited

namespace Language

def all : List Language := [.go, .javaScript, .typeScript, .tsx, .python, .rust]

def id : Language → String
  | .go => "go"
  | .javaScript => "javascript"
  | .typeScript => "typescript"
  | .tsx => "tsx"
  | .python => "python"
  | .rust => "rust"

def ofId? (text : String) : Option Language := all.find? fun language => language.id == text

theorem ofId?_id (language : Language) : ofId? language.id = some language := by
  cases language <;> decide

def chunkableKinds : Language → List String
  | .go => ["function_declaration", "method_declaration"]
  | .javaScript =>
    ["function_declaration", "function_expression", "arrow_function", "method_definition",
      "class_declaration"]
  | .typeScript | .tsx => ["function_declaration", "method_definition", "class_declaration"]
  | .python => ["function_definition", "class_definition"]
  | .rust => ["function_item", "impl_item", "trait_item", "struct_item", "enum_item"]

def isChunkable (language : Language) (kind : String) : Bool :=
  language.chunkableKinds.contains kind

def namedKinds : List String :=
  ["function_declaration", "method_definition", "class_declaration", "method_declaration",
    "function_definition", "class_definition", "function_item", "trait_item", "struct_item",
    "enum_item"]

/-- The field of a node that holds the name it declares. An `impl` block goes by its type. -/
def symbolField? (language : Language) (kind : String) : Option String :=
  if language == .rust && kind == "impl_item" then some "type"
  else if namedKinds.contains kind then some "name"
  else none

/-- Whether a first line that names an interpreter is hidden from the parser. Python's own
comments begin like one. -/
def blanksInterpreterLine (language : Language) : Bool := language != .python

def extensions : Language → List String
  | .go => ["go"]
  | .javaScript => ["js", "mjs", "cjs", "jsx"]
  | .typeScript => ["ts", "mts", "cts"]
  | .tsx => ["tsx"]
  | .python => ["py"]
  | .rust => ["rs"]

/-- The language of a file, told by the extension of its name. -/
def ofPath? (path : PathName) : Option Language :=
  ((PathName.extension? path).bind Text.text?).bind fun ending =>
    all.find? fun language => language.extensions.contains ending

end Language

end SourceIndex
