import SourceIndex.Proofs.Json.Spelling
import SourceIndex.Proofs.Store.Room
import SourceIndex.Proofs.Text.Bytes

set_option autoImplicit false

namespace SourceIndex

namespace Text

/-- The lines of a text without the line feeds that end them. -/
def lines (text : List Char) : List (List Char) :=
  (closedPieces '\n' text).map fun piece => piece.takeWhile (· != '\n')

theorem closedPieces_line (line later : List Char) (single : '\n' ∉ line) :
    closedPieces '\n' (line ++ '\n' :: later) =
      (line ++ ['\n']) :: closedPieces '\n' later := by
  induction line with
  | nil => rfl
  | cons c line ih =>
      have other := List.ne_of_not_mem_cons single
      have rest := List.not_mem_of_not_mem_cons single
      have inside : (c == '\n') = false := beq_eq_false_iff_ne.mpr (Ne.symm other)
      have pieces := ih rest
      simp only [closedPieces, List.cons_append, List.foldr_cons] at pieces ⊢
      rw [pieces, inside]
      rfl

theorem lines_line (line later : List Char) (single : '\n' ∉ line) :
    lines (line ++ '\n' :: later) = line :: lines later := by
  have whole : (line ++ ['\n']).takeWhile (· != '\n') = line := by
    have inside : ∀ c ∈ line, (c != '\n') = true := fun c member =>
      bne_iff_ne.mpr fun same => single (same ▸ member)
    rw [List.takeWhile_append_of_pos inside]
    exact List.append_nil line
  rw [lines, closedPieces_line line later single, List.map_cons, whole, lines]

end Text

namespace Chunk

structure InWords (chunk : Chunk) : Prop where
  startLine : chunk.startLine < wordBound
  endLine : chunk.endLine < wordBound

/-- The chunk that a line of a store spells, if it is the record of one. -/
def ofLine? (line : String) : Option Chunk :=
  (Json.parseAs shape line).toOption.bind ofJson?

/-- The record of a chunk as it is read: with its language and its origin, if only as null. -/
def toRecord (chunk : Chunk) : Json :=
  .object [("id", .string chunk.id), ("file", .string chunk.file), ("code", .string chunk.code),
    ("startLine", .natural chunk.startLine), ("endLine", .natural chunk.endLine),
    ("symbol", .string chunk.symbol), ("type", .string chunk.kind),
    ("language", Json.ofOption .string chunk.language),
    ("sourceType", Json.ofOption .string (chunk.origin.map Origin.word))]

theorem ofJson?_toRecord (chunk : Chunk) : ofJson? chunk.toRecord = some chunk := by
  obtain ⟨id, file, code, startLine, endLine, symbol, kind, language, origin⟩ := chunk
  rcases language with _ | language <;> rcases origin with _ | ⟨⟨⟩⟩ <;> rfl

/-- The member of a field that is left out if there is no value. -/
def spellingOf? (name : String) (shape : Shape) (value : Option String) : List Json.Spelling :=
  match value with
  | some text => [⟨name, .optional shape, .string text, .string text⟩]
  | none => []

def spellings (chunk : Chunk) : List Json.Spelling :=
  [⟨"id", .text, .string chunk.id, .string chunk.id⟩,
    ⟨"file", .text, .string chunk.file, .string chunk.file⟩,
    ⟨"code", .text, .string chunk.code, .string chunk.code⟩,
    ⟨"startLine", .word "usize", .natural chunk.startLine, .natural chunk.startLine⟩,
    ⟨"endLine", .word "usize", .natural chunk.endLine, .natural chunk.endLine⟩,
    ⟨"symbol", .text, .string chunk.symbol, .string chunk.symbol⟩,
    ⟨"type", .text, .string chunk.kind, .string chunk.kind⟩] ++
  spellingOf? "language" .text chunk.language ++
  spellingOf? "sourceType" (.choice [Origin.word .syntaxTree]) (chunk.origin.map Origin.word)

/-- The record of a chunk is spelled by its form, whichever of its members are left out. -/
theorem spells (chunk : Chunk) (words : chunk.InWords) (depth : Nat) :
    Json.Spells (depth + 1) shape chunk.toJson chunk.toRecord := by
  obtain ⟨id, file, code, startLine, endLine, symbol, kind, language, origin⟩ := chunk
  have text (value : String) := Json.Spells.text depth value
  have first := Json.Spells.word depth "usize" startLine words.startLine
  have last := Json.Spells.word depth "usize" endLine words.endLine
  have given (value : String) := Json.Spells.present depth .text _ _ rfl (text value)
  have cut := Json.Spells.present depth _ _ _ rfl
    (Json.Spells.choice depth ["ast"] "ast" rfl)
  rcases language with _ | language <;> rcases origin with _ | ⟨⟨⟩⟩
  all_goals
    refine Json.Spells.record depth "Chunk" _
      (spellings ⟨id, file, code, startLine, endLine, symbol, kind, _, _⟩) _ ?_ ?_ ?_ rfl
    · simp [spellings, spellingOf?, Json.fieldAt?, Origin.word]
    · simp [spellings, spellingOf?]
    · simp [spellings, spellingOf?, text, first, last, given, Origin.word, cut]

theorem ofLine?_compact (chunk : Chunk) (words : chunk.InWords) :
    ofLine? chunk.toJson.compact = some chunk := by
  have read := (chunk.spells words 126).parseAs_compact
  simp only [ofLine?, read, Except.toOption, Option.bind_some, ofJson?_toRecord]

theorem line_toList (chunk : Chunk) :
    chunk.line.toList = chunk.toJson.render none ++ ['\n'] := by
  simp only [line, Json.compact, String.toList_append, String.toList_ofList]
  rfl

end Chunk

namespace Store

/-- The text of a store: the lines of its chunks. -/
def text (chunks : List Chunk) : List Char := chunks.flatMap fun chunk => chunk.line.toList

theorem text_cons (chunk : Chunk) (chunks : List Chunk) :
    text (chunk :: chunks) = chunk.toJson.render none ++ '\n' :: text chunks := by
  simp only [text, List.flatMap_cons, chunk.line_toList, List.append_assoc, List.singleton_append]

theorem utf8_text (chunks : List Chunk) :
    Text.utf8 (text chunks) = chunks.flatMap fun chunk => Text.encode chunk.line := by
  simp only [text, Text.utf8, Text.encode_eq_utf8, List.flatMap_assoc]

theorem count_text (chunks : List Chunk) : (text chunks).count '\n' = chunks.length := by
  induction chunks with
  | nil => rfl
  | cons chunk chunks ih =>
      have single := List.count_eq_zero.mpr (Json.newLine_not_mem_render chunk.toJson)
      rw [text_cons, List.count_append, single, List.count_cons_self, ih, List.length_cons,
        Nat.zero_add]

theorem getLast?_text (chunks : List Chunk) (some : chunks ≠ []) :
    (text chunks).getLast? = Option.some '\n' := by
  have lines := List.dropLast_concat_getLast some
  rw [← lines, text, List.flatMap_append, List.flatMap_singleton, Chunk.line_toList,
    ← List.append_assoc, List.getLast?_concat]

theorem lines_eq_map (chunks : List Chunk) :
    Text.lines (text chunks) = chunks.map fun chunk => chunk.toJson.render none := by
  induction chunks with
  | nil => rfl
  | cons chunk chunks ih =>
      rw [text_cons, Text.lines_line _ _ (Json.newLine_not_mem_render chunk.toJson), ih,
        List.map_cons]

theorem lines_text (chunks : List Chunk) (words : ∀ chunk ∈ chunks, chunk.InWords) :
    (Text.lines (text chunks)).map (fun line => Chunk.ofLine? (String.ofList line)) =
      chunks.map some := by
  rw [lines_eq_map, List.map_map]
  refine List.map_congr_left fun chunk member => ?_
  rw [Function.comp_apply, ← Json.compact, chunk.ofLine?_compact (words chunk member)]

end Store

namespace StoreWriter

/-- What a fresh stream that takes everything receives is a text with one line for each chunk,
which is read back as the chunk; so no other list of chunks is written as it. -/
theorem received_spells (stream : Stream) (target : String) (fresh : stream.backwards = [])
    (unlimited : stream.room = none) (chunks : List Chunk)
    (words : ∀ chunk ∈ chunks, chunk.InWords) :
    ∃ text : String,
      (writeAll ⟨stream, target, 0⟩ chunks).2 = none ∧
      (writeAll ⟨stream, target, 0⟩ chunks).1.written = chunks.length ∧
      (writeAll ⟨stream, target, 0⟩ chunks).1.stream.received = Text.encode text ∧
      (chunks ≠ [] → text.toList.getLast? = some '\n') ∧
      text.toList.count '\n' = chunks.length ∧
      (Text.lines text.toList).map (fun line => Chunk.ofLine? (String.ofList line)) =
        chunks.map some ∧
      ∀ others : List Chunk, (∀ chunk ∈ others, chunk.InWords) →
        (writeAll ⟨stream, target, 0⟩ others).1.stream.received = Text.encode text →
        others = chunks := by
  have written (given : List Chunk) :
      writeAll ⟨stream, target, 0⟩ given = (filled ⟨stream, target, 0⟩ given, none) :=
    writeAll_of_takes _ given (Stream.takes_of_unlimited unlimited _)
  have received (given : List Chunk) :
      (writeAll ⟨stream, target, 0⟩ given).1.stream.received =
        Text.encode (String.ofList (Store.text given)) := by
    rw [written, filled, Stream.received_taking, Stream.received, fresh, Text.encode_ofList,
      Store.utf8_text]
    rfl
  refine ⟨String.ofList (Store.text chunks), ?_⟩
  rw [String.toList_ofList]
  refine ⟨?_, ?_, received chunks, Store.getLast?_text chunks, Store.count_text chunks,
    Store.lines_text chunks words, ?_⟩
  · rw [written]
  · rw [written]
    exact Nat.zero_add _
  · intro others otherWords same
    rw [received others] at same
    have texts := String.ofList_inj.mp (Text.encode_injective _ _ same)
    have read := Store.lines_text others otherWords
    rw [texts, Store.lines_text chunks words] at read
    exact (List.map_inj_right fun first second => Option.some.inj).mp read.symm

/-- A chunk whose code has quotes, a backslash, a tab and line ends of its own. -/
def escapedChunk : Chunk where
  id := "chunk_0"
  file := "a b.py"
  code := "def f():\r\n\treturn \"\\\u0001𝒳\"\n"
  startLine := 1
  endLine := wordBound - 1
  symbol := "f"
  kind := "function_definition"
  language := some "python"
  origin := some .syntaxTree

/-- A chunk without a language and an origin. -/
def bareChunk : Chunk where
  id := ""
  file := "x.go"
  code := "\n"
  startLine := 0
  endLine := 0
  symbol := ""
  kind := ""

theorem received_spells_escapedChunk :
    ∃ text : String,
      (writeAll ⟨({} : Stream), "store", 0⟩ [escapedChunk, bareChunk]).1.stream.received =
        Text.encode text ∧
      text.toList.count '\n' = 2 ∧
      (Text.lines text.toList).map (fun line => Chunk.ofLine? (String.ofList line)) =
        [some escapedChunk, some bareChunk] := by
  have words : ∀ chunk ∈ [escapedChunk, bareChunk], chunk.InWords := by
    simp only [List.forall_mem_cons]
    exact ⟨⟨by decide, by decide⟩, ⟨by decide, by decide⟩, fun chunk none => nomatch none⟩
  obtain ⟨text, -, -, received, -, count, read, -⟩ :=
    received_spells {} "store" rfl rfl [escapedChunk, bareChunk] words
  exact ⟨text, received, count, read⟩

end StoreWriter

end SourceIndex
