import SourceIndex.Indexing
import SourceIndex.Proofs.Store.Buffer
import SourceIndex.Proofs.Walk.Traversal

set_option autoImplicit false

namespace SourceIndex

def FileReading.bytes? : FileReading → Option (List UInt8)
  | content bytes => some bytes
  | _ => none

namespace IndexRun

/-- The language of a file that the rules keep. -/
def candidate? (config : IndexingConfig) (path : PathName) : Option Language :=
  if (rules config).skips path then none else Language.ofPath? path

/-- What is cut out of a file that is indexed: one that the rules keep, in a known language, that
can be read, is not too large, and parses, if need be in part. -/
def accepted? (parse : SyntaxParser) (config : IndexingConfig) (file : SourceFile) :
    Option Extraction := do
  let language ← candidate? config file.path
  let bytes ← file.reading.bytes?
  if bytes.length ≤ config.maxFileSize then
    (Extraction.ofText parse language config.allowPartialParse file.shown
      (Text.decodeLossy bytes)).toOption
  else none

/-- What is noted of a file that the rules keep, in a known language, that is not indexed. -/
def complaint? (parse : SyntaxParser) (config : IndexingConfig) (file : SourceFile) :
    Option Failure := do
  let language ← candidate? config file.path
  match file.reading with
  | .unseen reason => some (file.readFailed reason)
  | .refused size reason =>
    some (if size ≤ config.maxFileSize then file.readFailed reason
      else file.tooLarge size config.maxFileSize)
  | .content bytes =>
    if bytes.length ≤ config.maxFileSize then
      match Extraction.ofText parse language config.allowPartialParse file.shown
          (Text.decodeLossy bytes) with
      | .error fault => some (.chunking (.parseFailed file.shown fault.message))
      | .ok _ => none
    else some (file.tooLarge bytes.length config.maxFileSize)

/-- What extraction gives for a candidate, as what is accepted and what is complained of. -/
theorem extract_cases (parse : SyntaxParser) (config : IndexingConfig) (language : Language)
    (file : SourceFile) (candidate : candidate? config file.path = some language) :
    (∃ extraction, extract parse config language file = .ok extraction ∧
        accepted? parse config file = some extraction ∧ complaint? parse config file = none) ∨
      ∃ failure, extract parse config language file = .error failure ∧
        failure.isFatal = false ∧ accepted? parse config file = none ∧
        complaint? parse config file = some failure := by
  simp only [extract, accepted?, complaint?, candidate, Option.bind_eq_bind, Option.bind_some]
  cases file.reading with
  | unseen reason => exact .inr ⟨_, rfl, rfl, rfl, rfl⟩
  | refused size reason =>
      by_cases large : config.maxFileSize < size
      · have beyond : ¬ size ≤ config.maxFileSize := Nat.not_le_of_lt large
        simp only [large, beyond, ↓reduceIte]
        exact .inr ⟨_, rfl, rfl, rfl, rfl⟩
      · have small : size ≤ config.maxFileSize := Nat.le_of_not_lt large
        simp only [large, small, ↓reduceIte]
        exact .inr ⟨_, rfl, rfl, rfl, rfl⟩
  | content bytes =>
      by_cases large : config.maxFileSize < bytes.length
      · have beyond : ¬ bytes.length ≤ config.maxFileSize := Nat.not_le_of_lt large
        simp only [large, beyond, ↓reduceIte, FileReading.bytes?, Option.bind_some]
        exact .inr ⟨_, rfl, rfl, trivial, rfl⟩
      · have small : bytes.length ≤ config.maxFileSize := Nat.le_of_not_lt large
        simp only [large, small, ↓reduceIte, FileReading.bytes?, Option.bind_some]
        cases Extraction.ofText parse language config.allowPartialParse file.shown
            (Text.decodeLossy bytes) with
        | error fault => exact .inr ⟨_, rfl, rfl, rfl, rfl⟩
        | ok extraction => exact .inl ⟨_, rfl, rfl, rfl⟩

/-- A candidate is either accepted or complained of, and no other file is. -/
theorem complaint?_isSome (parse : SyntaxParser) (config : IndexingConfig) (file : SourceFile) :
    (complaint? parse config file).isSome =
      ((candidate? config file.path).isSome && (accepted? parse config file).isNone) := by
  cases candidate : candidate? config file.path with
  | none => simp only [complaint?, candidate]; rfl
  | some language =>
      rcases extract_cases parse config language file candidate with
        ⟨extraction, -, accepted, silent⟩ | ⟨failure, -, -, rejected, complained⟩
      · rw [accepted, silent]
        rfl
      · rw [rejected, complained]
        rfl

theorem complaint?_eq_none_of_accepted {parse : SyntaxParser} {config : IndexingConfig}
    {file : SourceFile} {extraction : Extraction}
    (accepted : accepted? parse config file = some extraction) :
    complaint? parse config file = none := by
  rw [← Option.not_isSome_iff_eq_none, complaint?_isSome, accepted, Option.isNone_some,
    Bool.and_false]
  exact Bool.false_ne_true

theorem candidate?_eq_some (config : IndexingConfig) (path : PathName) (language : Language) :
    candidate? config path = some language ↔
      ¬ (rules config).skips path ∧ Language.ofPath? path = some language := by
  rw [candidate?]
  by_cases skipped : (rules config).skips path
  · simp only [skipped, ↓reduceIte, reduceCtorEq, not_true_eq_false, false_and]
  · simp only [skipped, Bool.false_eq_true, ↓reduceIte, not_false_eq_true, true_and]

theorem visit_of_no_candidate (parse : SyntaxParser) (config : IndexingConfig) (run : IndexRun)
    (file : SourceFile) (passed : candidate? config file.path = none) :
    accepted? parse config file = none ∧ complaint? parse config file = none ∧
      visit parse config run file = (run.skip, none) := by
  refine ⟨?_, ?_, ?_⟩
  · rw [accepted?, passed]
    rfl
  · rw [complaint?, passed]
    rfl
  · rw [candidate?] at passed
    rw [visit]
    split
    · rfl
    · rename_i kept
      rw [if_neg kept] at passed
      rw [passed]

/-- The chunks of a file that is accepted are written; only the store can end the run. -/
theorem visit_of_accepted (parse : SyntaxParser) (config : IndexingConfig) (run : IndexRun)
    (file : SourceFile) (extraction : Extraction)
    (accepted : accepted? parse config file = some extraction) :
    visit parse config run file =
      match run.writer.writeAll extraction.chunks with
      | (writer, none) => ({ run with writer }.count extraction.dropped, none)
      | (writer, some cause) => ({ run with writer }, some (.indexing cause)) := by
  cases candidate : candidate? config file.path with
  | none =>
      obtain ⟨rejected, -, -⟩ := visit_of_no_candidate parse config run file candidate
      rw [accepted] at rejected
      cases rejected
  | some language =>
      obtain ⟨kept, known⟩ := (candidate?_eq_some config file.path language).mp candidate
      rcases extract_cases parse config language file candidate with
        ⟨given, extracted, same, -⟩ | ⟨failure, -, -, rejected, -⟩
      · rw [accepted, Option.some.injEq] at same
        rw [visit, if_neg kept, known, same]
        rcases written : run.writer.writeAll given.chunks with ⟨writer, _ | cause⟩ <;>
          simp only [extracted, written]
      · rw [accepted] at rejected
        cases rejected

/-- Nothing is written of any other file, and none of them ends the run. -/
theorem visit_of_rejected (parse : SyntaxParser) (config : IndexingConfig) (run : IndexRun)
    (file : SourceFile) (rejected : accepted? parse config file = none) :
    visit parse config run file =
      (match complaint? parse config file with
        | some failure => run.skip.note failure
        | none => run.skip, none) := by
  cases candidate : candidate? config file.path with
  | none =>
      obtain ⟨-, uncontested, visited⟩ := visit_of_no_candidate parse config run file candidate
      rw [visited, uncontested]
  | some language =>
      obtain ⟨kept, known⟩ := (candidate?_eq_some config file.path language).mp candidate
      rcases extract_cases parse config language file candidate with
        ⟨given, -, accepted, -⟩ | ⟨failure, refused, recoverable, -, complained⟩
      · rw [rejected] at accepted
        cases accepted
      · rw [visit, if_neg kept, known, complained]
        simp only [refused, recoverable, Bool.false_eq_true, ↓reduceIte]

section Tallies

variable (parse : SyntaxParser) (config : IndexingConfig)

/-- The chunks of the files that are accepted. -/
def chunksOf (seen : List SourceFile) : List Chunk :=
  (seen.filterMap (accepted? parse config)).flatMap (·.chunks)

/-- The lines of the files that are accepted. -/
def linesOf (seen : List SourceFile) : List UInt8 := Store.bytes (chunksOf parse config seen)

/-- The declarations without code in the files that are accepted. -/
def droppedOf (seen : List SourceFile) : Nat :=
  (seen.filterMap (accepted? parse config)).foldl (fun others extraction =>
    others + extraction.dropped) 0

theorem chunksOf_append (first second : List SourceFile) :
    chunksOf parse config (first ++ second) =
      chunksOf parse config first ++ chunksOf parse config second := by
  rw [chunksOf, List.filterMap_append, List.flatMap_append, chunksOf, chunksOf]

theorem chunksOf_cons_of_accepted (file : SourceFile) (later : List SourceFile)
    (extraction : Extraction) (accepted : accepted? parse config file = some extraction) :
    chunksOf parse config (file :: later) = extraction.chunks ++ chunksOf parse config later := by
  rw [chunksOf, List.filterMap_cons_some accepted, List.flatMap_cons, chunksOf]

theorem chunksOf_cons_of_rejected (file : SourceFile) (later : List SourceFile)
    (rejected : accepted? parse config file = none) :
    chunksOf parse config (file :: later) = chunksOf parse config later := by
  rw [chunksOf, List.filterMap_cons_none rejected, chunksOf]

theorem chunksOf_concat (seen : List SourceFile) (file : SourceFile) (extraction : Extraction)
    (accepted : accepted? parse config file = some extraction) :
    chunksOf parse config (seen ++ [file]) = chunksOf parse config seen ++ extraction.chunks := by
  rw [chunksOf_append, chunksOf_cons_of_accepted parse config file [] extraction accepted]
  exact congrArg _ (List.append_nil _)

theorem linesOf_append (first second : List SourceFile) :
    linesOf parse config (first ++ second) =
      linesOf parse config first ++ linesOf parse config second := by
  rw [linesOf, chunksOf_append, Store.bytes_append, linesOf, linesOf]

/-- What a run holds after the files seen so far, if its store is written to a disk that began as
`disk`. -/
structure Tallies (disk : Stream) (target : String) (seen : List SourceFile) (run : IndexRun) :
    Prop where
  carries : run.writer.stream.Carries disk (linesOf parse config seen)
  target : run.writer.target = target
  written : run.writer.written = (chunksOf parse config seen).length
  indexed : run.report.filesIndexed = (seen.filterMap (accepted? parse config)).length
  visited : run.report.filesIndexed + run.report.filesSkipped = seen.length
  dropped : run.report.emptyChunksDropped = droppedOf parse config seen
  errors : run.report.errors = (seen.filterMap (complaint? parse config)).map Failure.message

variable {parse config} {disk : Stream} {target : String} {seen : List SourceFile}
  {run : IndexRun} (tallies : Tallies parse config disk target seen run)

include tallies

theorem Tallies.skip {file : SourceFile} (rejected : accepted? parse config file = none)
    {errors : List String}
    (noted : errors = ((seen ++ [file]).filterMap (complaint? parse config)).map Failure.message) :
    Tallies parse config disk target (seen ++ [file])
      { run.skip with report := { run.skip.report with errors } } := by
  have accepted : (seen ++ [file]).filterMap (accepted? parse config) =
      seen.filterMap (accepted? parse config) := by
    rw [List.filterMap_append, List.filterMap_cons_none rejected, List.filterMap_nil,
      List.append_nil]
  have chunks : chunksOf parse config (seen ++ [file]) = chunksOf parse config seen := by
    rw [chunksOf, accepted, chunksOf]
  refine ⟨?_, tallies.target, ?_, ?_, ?_, ?_, noted⟩
  · rw [linesOf, chunks]
    exact tallies.carries
  · rw [chunks]
    exact tallies.written
  · rw [accepted]
    exact tallies.indexed
  · rw [List.length_append, ← tallies.visited]
    rfl
  · rw [droppedOf, accepted]
    exact tallies.dropped

/-- A file that is not accepted is counted, and its complaint is noted. -/
theorem Tallies.reject {file : SourceFile} (rejected : accepted? parse config file = none) :
    Tallies parse config disk target (seen ++ [file])
      (match complaint? parse config file with
        | some failure => run.skip.note failure
        | none => run.skip) := by
  cases complained : complaint? parse config file with
  | none =>
      refine tallies.skip rejected ?_
      rw [List.filterMap_append, List.filterMap_cons_none complained, List.filterMap_nil,
        List.append_nil]
      exact tallies.errors
  | some failure =>
      refine tallies.skip rejected ?_
      rw [List.filterMap_append, List.filterMap_cons_some complained, List.map_append,
        ← tallies.errors]
      rfl

/-- The chunks of a file that is accepted are written, and counted with the file. -/
theorem Tallies.accept {file : SourceFile} {extraction : Extraction}
    (accepted : accepted? parse config file = some extraction) {stream : StoreFile}
    (carries : stream.Carries disk
      (linesOf parse config seen ++ Store.bytes extraction.chunks)) :
    Tallies parse config disk target (seen ++ [file])
      (count { run with writer := { run.writer with
        stream, written := run.writer.written + extraction.chunks.length } }
        extraction.dropped) := by
  have all : (seen ++ [file]).filterMap (accepted? parse config) =
      seen.filterMap (accepted? parse config) ++ [extraction] := by
    rw [List.filterMap_append, List.filterMap_cons_some accepted, List.filterMap_nil]
  have chunks := chunksOf_concat parse config seen file extraction accepted
  refine ⟨?_, tallies.target, ?_, ?_, ?_, ?_, ?_⟩
  · rw [linesOf, chunks, Store.bytes_append]
    exact carries
  · rw [chunks, List.length_append, ← tallies.written]
    rfl
  · rw [all, List.length_append, ← tallies.indexed]
    rfl
  · rw [List.length_append, ← tallies.visited]
    exact Nat.add_right_comm _ _ _
  · rw [droppedOf, all, List.foldl_append, ← droppedOf, ← tallies.dropped]
    rfl
  · rw [List.filterMap_append, List.filterMap_cons_none (complaint?_eq_none_of_accepted accepted),
      List.filterMap_nil, List.append_nil]
    exact tallies.errors

/-- A visit keeps the tallies, unless the disk does not take the lines. -/
theorem Tallies.visit (file : SourceFile) :
    (∃ next, IndexRun.visit parse config run file = (next, none) ∧
      Tallies parse config disk target (seen ++ [file]) next) ∨
    (disk.takes (linesOf parse config (seen ++ [file])) = false ∧ ∃ next,
      IndexRun.visit parse config run file =
        (next, some (.indexing (.writeFailed target disk.refusal)))) := by
  cases accepted : accepted? parse config file with
  | none =>
      exact .inl ⟨_, visit_of_rejected parse config run file accepted, tallies.reject accepted⟩
  | some extraction =>
      rw [visit_of_accepted parse config run file extraction accepted]
      rcases StoreWriter.writeAll_cases tallies.carries extraction.chunks with
        ⟨stream, written, carries⟩ | ⟨full, next, refused⟩
      · rw [written]
        exact .inl ⟨_, rfl, tallies.accept accepted carries⟩
      · rw [refused, StoreWriter.failure, tallies.target]
        refine .inr ⟨?_, _, rfl⟩
        rwa [linesOf, chunksOf_concat parse config seen file extraction accepted,
          Store.bytes_append]

/-- A whole run keeps the tallies, unless the disk does not take the lines. -/
theorem Tallies.visitEach (later : List SourceFile) :
    (∃ last, Walk.visitEach (IndexRun.visit parse config) run later = (last, none) ∧
      Tallies parse config disk target (seen ++ later) last) ∨
    (disk.takes (linesOf parse config (seen ++ later)) = false ∧ ∃ last,
      Walk.visitEach (IndexRun.visit parse config) run later =
        (last, some (.indexing (.writeFailed target disk.refusal)))) := by
  induction later generalizing seen run with
  | nil => exact .inl ⟨run, rfl, by rwa [List.append_nil]⟩
  | cons file later ih =>
      rw [← List.singleton_append, ← List.append_assoc]
      rcases tallies.visit file with ⟨next, visited, kept⟩ | ⟨full, next, refused⟩
      · simp only [List.singleton_append, Walk.visitEach, visited]
        exact ih kept
      · refine .inr ⟨?_, next, ?_⟩
        · rw [linesOf_append, Stream.takes_append, full, Bool.false_and]
        · simp only [List.singleton_append, Walk.visitEach, refused]

theorem Tallies.foldl {later : List SourceFile}
    (room : disk.takes (linesOf parse config (seen ++ later)) = true) :
    Tallies parse config disk target (seen ++ later)
      (later.foldl (fun run file => (run.visit parse config file).1) run) := by
  rcases tallies.visitEach later with ⟨last, visited, kept⟩ | ⟨full, -⟩
  · rwa [Walk.foldl_of_visitEach _ run last later visited]
  · rw [room] at full
    cases full

end Tallies

theorem tallies_begun (parse : SyntaxParser) (config : IndexingConfig) (disk : Stream)
    (target : String) : Tallies parse config disk target [] (begun { disk } target) :=
  ⟨StoreFile.carries_nil disk, rfl, rfl, rfl, rfl, rfl, rfl⟩

end IndexRun

end SourceIndex
