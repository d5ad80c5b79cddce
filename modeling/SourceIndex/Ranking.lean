import SourceIndex.Failure
import SourceIndex.Json.Shape
import SourceIndex.Text.Blank
import SourceIndex.Text.Search

set_option autoImplicit false

namespace SourceIndex

structure RankedChunk where
  id : String
  file : String
  code : String
  /-- A number of 32 bits. -/
  score : Floating
deriving DecidableEq, Repr, Inhabited

namespace RankedChunk

/-- The form of a ranked chunk. Each field has a second name with a capital. -/
def shape : Shape :=
  .record "ScoredChunk" <|
    .field "id" ["ID"] none .text <|
    .field "file" ["File"] none .text <|
    .field "code" ["Code"] none .text <|
    .field "score" ["Score"] none .single
      .none

def toJson (chunk : RankedChunk) : Json :=
  .object [("id", .string chunk.id), ("file", .string chunk.file), ("code", .string chunk.code),
    ("score", .single chunk.score)]

def ofJson? : Json → Option RankedChunk
  | .object [(_, .string id), (_, .string file), (_, .string code), (_, .single score)] =>
    some ⟨id, file, code, score⟩
  | _ => none

end RankedChunk

namespace Ranking

def toJson (chunks : List RankedChunk) : Json := .array (chunks.map RankedChunk.toJson)

def kindOf : Json → String
  | .null => "null"
  | .bool _ => "boolean"
  | .integer _ | .double _ | .single _ => "number"
  | .string _ => "string"
  | .array _ => "array"
  | .object _ => "object"

/-- The chunks of a value, which must be a list of records. -/
def ofJson (value : Json) : Except RetrievalFailure (List RankedChunk) :=
  match value with
  | .array items =>
    match items.mapM (Json.conform RankedChunk.shape) with
    | .ok records => .ok (records.filterMap RankedChunk.ofJson?)
    | .error cause => .error (.invalidOutput cause.message)
  | other => .error (.notAnArray (kindOf other))

/-- The chunks that a ranker printed: one JSON list, with blanks around it or without. -/
def parse (output : String) : Except RetrievalFailure (List RankedChunk) :=
  let text := Text.trimString output
  match Json.parse text with
  | .ok value => ofJson value
  | .error fault => .error (.invalidOutput (fault.message text))

/-- The arguments for a ranker. In each template the number of chunks is put in first, and then
the question. -/
def renderArguments (templates : List String) (query : String) (count : Nat) : List String :=
  templates.map fun template =>
    Text.replaceAll (Text.replaceAll template "\x7btop_k\x7d" (toString count))
      "\x7bquery\x7d" query

end Ranking

end SourceIndex
