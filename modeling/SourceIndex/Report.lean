import SourceIndex.Conversation

set_option autoImplicit false

namespace SourceIndex

/-- The summary of an indexing run. -/
structure IndexReport where
  /-- Files whose chunks reached the store, those without chunks included. -/
  filesIndexed : Nat := 0
  /-- Files left out: by the rules, by their language, by their size or for a fault. -/
  filesSkipped : Nat := 0
  chunksWritten : Nat := 0
  emptyChunksDropped : Nat := 0
  /-- What was wrong with single files. -/
  errors : List String := []
  durationMs : Nat := 0
  outputPath : String := ""
deriving DecidableEq, Repr, Inhabited

namespace IndexReport

def shape : Shape :=
  .record "IndexResponse" <|
    .field "files_indexed" [] none (.word "usize") <|
    .field "files_skipped" [] none (.word "usize") <|
    .field "chunks_written" [] none (.word "usize") <|
    .field "empty_chunks_dropped" [] none (.word "usize") <|
    .field "errors" [] (some (.array [])) (.sequence .text) <|
    .field "duration_ms" [] none (.word "u64") <|
    .field "output_path" [] none .text
      .none

def toJson (report : IndexReport) : Json :=
  .object [
    ("files_indexed", .natural report.filesIndexed),
    ("files_skipped", .natural report.filesSkipped),
    ("chunks_written", .natural report.chunksWritten),
    ("empty_chunks_dropped", .natural report.emptyChunksDropped),
    ("errors", .strings report.errors),
    ("duration_ms", .natural report.durationMs),
    ("output_path", .string report.outputPath)]

def text? : Json → Option String
  | .string text => some text
  | _ => none

def ofJson? : Json → Option IndexReport
  | .object [(_, .integer indexed), (_, .integer skipped), (_, .integer written),
      (_, .integer dropped), (_, .array errors), (_, .integer duration), (_, .string path)] =>
    some {
      filesIndexed := indexed.toNat
      filesSkipped := skipped.toNat
      chunksWritten := written.toNat
      emptyChunksDropped := dropped.toNat
      errors := errors.filterMap text?
      durationMs := duration.toNat
      outputPath := path }
  | _ => none

def summary (report : IndexReport) : String :=
  "Indexed " ++ toString report.filesIndexed ++ " files (" ++ toString report.filesSkipped ++
    " skipped), wrote " ++ toString report.chunksWritten ++ " chunks to " ++ report.outputPath ++
    " in " ++ toString report.durationMs ++ "ms\n" ++
    String.join (report.errors.map fun error => "  skipped: " ++ error ++ "\n")

end IndexReport

/-- What a question gives back. -/
structure Answer where
  /-- The chunks of the ranker in its order. -/
  chunks : List RankedChunk
  /-- The messages that were asked, or would be. -/
  prompt : List Message
  /-- The words of the answer; none if only the prompt was wanted. -/
  text : Option String
deriving DecidableEq, Repr, Inhabited

namespace Answer

def shape : Shape :=
  .record "AskResponse" <|
    .field "chunks" [] none (.sequence RankedChunk.shape) <|
    .field "prompt" [] none (.sequence Message.shape) <|
    .field "answer" [] none (.optional .text)
      .none

def toJson (answer : Answer) : Json :=
  .object [
    ("chunks", Ranking.toJson answer.chunks),
    ("prompt", Conversation.toJson answer.prompt),
    ("answer", Json.ofOption .string answer.text)]

def ofJson? : Json → Option Answer
  | .object [(_, .array chunks), (_, .array prompt), (_, text)] =>
    some ⟨chunks.filterMap RankedChunk.ofJson?, prompt.filterMap Message.ofJson?,
      IndexReport.text? text⟩
  | _ => none

end Answer

end SourceIndex
