import SourceIndex.Chunk
import SourceIndex.Json.Shape

set_option autoImplicit false

namespace SourceIndex

namespace Origin

def word : Origin → String
  | .syntaxTree => "ast"

def ofWord? (text : String) : Option Origin := if text == "ast" then some .syntaxTree else none

end Origin

namespace Chunk

/-- The form of a record. Its language and its origin may be missing. -/
def shape : Shape :=
  .record "Chunk" <|
    .field "id" [] none .text <|
    .field "file" [] none .text <|
    .field "code" [] none .text <|
    .field "startLine" [] none (.word "usize") <|
    .field "endLine" [] none (.word "usize") <|
    .field "symbol" [] none .text <|
    .field "type" [] none .text <|
    .field "language" [] (some .null) (.optional .text) <|
    .field "sourceType" [] (some .null) (.optional (.choice [Origin.word .syntaxTree]))
      .none

def memberOf? (name : String) (value : Option String) : List (String × Json) :=
  match value with
  | some text => [(name, .string text)]
  | none => []

def toJson (chunk : Chunk) : Json :=
  .object <|
    [("id", .string chunk.id), ("file", .string chunk.file), ("code", .string chunk.code),
      ("startLine", .natural chunk.startLine), ("endLine", .natural chunk.endLine),
      ("symbol", .string chunk.symbol), ("type", .string chunk.kind)] ++
    memberOf? "language" chunk.language ++
    memberOf? "sourceType" (chunk.origin.map Origin.word)

def text? : Json → Option String
  | .string text => some text
  | _ => none

def ofJson? : Json → Option Chunk
  | .object [(_, .string id), (_, .string file), (_, .string code), (_, .integer startLine),
      (_, .integer endLine), (_, .string symbol), (_, .string kind), (_, language),
      (_, origin)] =>
    some {
      id, file, code, symbol, kind
      startLine := startLine.toNat
      endLine := endLine.toNat
      language := text? language
      origin := (text? origin).bind Origin.ofWord? }
  | _ => none

def line (chunk : Chunk) : String := chunk.toJson.compact ++ "\n"

end Chunk

end SourceIndex
