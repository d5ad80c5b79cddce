import SourceIndex.Proofs.Extraction.Numbering
import SourceIndex.Proofs.Indexing.Account
import SourceIndex.Proofs.Walk.Distinct

set_option autoImplicit false

namespace SourceIndex

namespace Extraction

theorem numbered_ofText (parse : SyntaxParser) (language : Language) (tolerant : Bool)
    (path : String) (text : List Char) (extraction : Extraction)
    (cut : ofText parse language tolerant path text = .ok extraction) :
    Numbered path extraction.chunks := by
  rw [ofText_eq_ok cut]
  exact numbered_ofDeclarations language path text _

end Extraction

theorem IndexRun.numbered_of_accepted (parse : SyntaxParser) (config : IndexingConfig)
    (file : SourceFile) (extraction : Extraction)
    (accepted : accepted? parse config file = some extraction) :
    Extraction.Numbered file.shown extraction.chunks := by
  simp only [accepted?, Option.bind_eq_bind, Option.bind_eq_some_iff] at accepted
  obtain ⟨language, -, bytes, -, cut⟩ := accepted
  split at cut
  · cases made : Extraction.ofText parse language config.allowPartialParse file.shown
        (Text.decodeLossy bytes) with
    | error fault =>
        rw [made] at cut
        cases cut
    | ok other =>
        rw [made] at cut
        cases cut
        exact Extraction.numbered_ofText parse language _ file.shown _ _ made
  · cases cut

/-- The records of a store as they are found by the file and the id. -/
structure Store.Ordered (records : List Chunk) : Prop where
  /-- No two records have the same file and id. -/
  distinct : records.Pairwise fun first second => (first.file, first.id) ≠ (second.file, second.id)
  /-- Between two records of one file there are only records of that file. -/
  together : ∀ i j k : Nat, i < j → j < k → ∀ first between second, records[i]? = some first →
    records[j]? = some between → records[k]? = some second → first.file = second.file →
    between.file = first.file
  /-- The numbers of the records of one file rise. -/
  rising : records.Pairwise fun first second => first.file = second.file → first.Precedes second

namespace Store

/-- The records of files with these paths, block by block. Those of one file have its path as it is
shown, and their numbers rise. -/
inductive Blocks : List PathName → List Chunk → Prop where
  | nil : Blocks [] []
  | cons {path : PathName} {paths : List PathName} {chunks records : List Chunk}
      (block : Extraction.Numbered (PathName.display path) chunks) (rest : Blocks paths records) :
      Blocks (path :: paths) (chunks ++ records)

/-- The records of one file may stand before those of other files. -/
theorem Ordered.append {path : String} {chunks records : List Chunk}
    (block : Extraction.Numbered path chunks) (ordered : Ordered records)
    (fresh : ∀ record ∈ records, record.file ≠ path) : Ordered (chunks ++ records) := by
  have across : ∀ chunk ∈ chunks, ∀ record ∈ records, chunk.file ≠ record.file :=
    fun chunk inBlock record inRecords same =>
      fresh record inRecords (same ▸ block.file chunk inBlock)
  refine ⟨?_, ?_, ?_⟩
  · refine List.pairwise_append.mpr ⟨?_, ordered.distinct, ?_⟩
    · exact block.rising.imp fun precedes same => precedes.id_ne (Prod.mk.inj same).2
    · exact fun chunk inBlock record inRecords same =>
        across chunk inBlock record inRecords (Prod.mk.inj same).1
  · intro i j k before after first between second atFirst atBetween atSecond same
    by_cases inside : k < chunks.length
    · -- All three stand in the block.
      rw [List.getElem?_append_left (by omega)] at atFirst atBetween
      rw [block.file first (List.mem_of_getElem? atFirst),
        block.file between (List.mem_of_getElem? atBetween)]
    · rw [List.getElem?_append_right (Nat.le_of_not_lt inside)] at atSecond
      have last := List.mem_of_getElem? atSecond
      by_cases outside : i < chunks.length
      · rw [List.getElem?_append_left outside] at atFirst
        exact absurd same (across first (List.mem_of_getElem? atFirst) second last)
      · rw [List.getElem?_append_right (by omega)] at atFirst atBetween
        exact ordered.together _ _ _ (by omega) (by omega) first between second atFirst atBetween
          atSecond same
  · refine List.pairwise_append.mpr ⟨?_, ordered.rising, ?_⟩
    · exact block.rising.imp fun {first second} precedes (_ : first.file = second.file) => precedes
    · exact fun chunk inBlock record inRecords same =>
        absurd same (across chunk inBlock record inRecords)

theorem Blocks.file_of_mem {paths : List PathName} {records : List Chunk}
    (blocks : Blocks paths records) {record : Chunk} (member : record ∈ records) :
    ∃ path ∈ paths, record.file = PathName.display path := by
  induction blocks with
  | nil => cases member
  | @cons path paths chunks records block rest ih =>
      rcases List.mem_append.mp member with own | other
      · exact ⟨path, List.mem_cons_self, block.file record own⟩
      · obtain ⟨path', among, same⟩ := ih other
        exact ⟨path', List.mem_cons_of_mem path among, same⟩

theorem Blocks.ordered {paths : List PathName} {records : List Chunk}
    (blocks : Blocks paths records)
    (apart : paths.Pairwise fun path other => PathName.display path ≠ PathName.display other) :
    Ordered records := by
  induction blocks with
  | nil => exact ⟨.nil, fun i j k _ _ first _ _ atFirst => (nomatch atFirst), .nil⟩
  | @cons path paths chunks records block rest ih =>
      obtain ⟨different, apart⟩ := List.pairwise_cons.mp apart
      refine .append block (ih apart) fun record member same => ?_
      obtain ⟨other, among, file⟩ := rest.file_of_mem member
      exact different other among (same.symm.trans file)

end Store

theorem PathName.display_encode (text : String) : display (Text.encode text) = text := by
  rw [display, Text.encode_eq_utf8, Text.decodeLossy_utf8, String.ofList_toList]

theorem PathName.pairwise_display {paths : List PathName} (distinct : paths.Nodup)
    (texts : ∀ path ∈ paths, ∃ text : String, path = Text.encode text) :
    paths.Pairwise fun path other => display path ≠ display other := by
  refine distinct.imp_of_mem fun {path other} member member' apart same => ?_
  obtain ⟨text, rfl⟩ := texts path member
  obtain ⟨text', rfl⟩ := texts other member'
  rw [display_encode, display_encode] at same
  exact apart (congrArg Text.encode same)

theorem IndexRun.blocks_chunksOf (parse : SyntaxParser) (config : IndexingConfig)
    (seen : List SourceFile) :
    Store.Blocks (seen.map (·.path)) (chunksOf parse config seen) := by
  induction seen with
  | nil => exact .nil
  | cons file later ih =>
      cases accepted : accepted? parse config file with
      | none =>
          rw [chunksOf_cons_of_rejected parse config file later accepted]
          have none : Extraction.Numbered file.shown [] := ⟨List.forall_mem_nil _, .nil⟩
          exact .cons none ih
      | some extraction =>
          rw [chunksOf_cons_of_accepted parse config file later extraction accepted]
          exact .cons (numbered_of_accepted parse config file extraction accepted) ih

namespace FileSystem

/-- A run that succeeds, or that the walk has ended, has made its store, which keeps the lines of
all files that the walk has given. -/
theorem stores_of_ended (parse : SyntaxParser) (disk : Stream) (config : IndexingConfig)
    (files after : FileSystem) (root : PathName) (result : Except Failure IndexReport)
    (unlimited : disk.room = none) (run : files.index parse disk config root = (result, after))
    (ended : (∃ report, result = .ok report) ∨
      ∃ directory reason, result = .error (.indexing (.walkFailed directory reason))) :
    ∃ location made, files.createStore config.outputPath = .ok (location, made) ∧
      Stores after location (made.linesAt parse disk config root location) := by
  have ends := files.index_ends parse disk config root
  rw [run] at ends
  have unended {failure : Failure} (refused : result = .error failure)
      (other : ∀ directory reason, failure ≠ .indexing (.walkFailed directory reason)) : False := by
    rcases ended with ⟨report, done⟩ | ⟨directory, reason, failed⟩
    · cases done.symm.trans refused
    · exact other directory reason (Except.error.inj (failed.symm.trans refused)).symm
  cases ends with
  | unrooted failure refused =>
      refine (unended rfl ?_).elim
      rcases files.checkRoot_eq_error root failure refused with rfl | rfl <;>
        exact fun _ _ same => nomatch same
  | storeless failure rooted refused =>
      obtain ⟨reason, rfl⟩ := files.createStore_eq_error config.outputPath failure refused
      exact (unended rfl fun _ _ same => nomatch same).elim
  | unwritten => exact (unended rfl fun _ _ same => nomatch same).elim
  | unfinished => exact (unended rfl fun _ _ same => nomatch same).elim
  | whole location made last rooted created completes tallies =>
      exact ⟨location, made, created, stores_keep created _⟩
  | unwalked location made cause rooted created failed =>
      refine ⟨location, made, created, ?_⟩
      by_cases device : ∃ kind, made.entryAt location = some (.device kind)
      · obtain ⟨kind, there⟩ := device
        exact .inr ⟨kind, by simp only [keep, there]⟩
      · have regular := made.diskAt_of_regular disk location fun kind there => device ⟨kind, there⟩
        have room := (made.diskAt disk location).takes_of_unlimited (regular ▸ unlimited)
          (made.linesAt parse disk config root location)
        rw [Stream.fitting_of_takes room]
        exact stores_keep created _

/-- The store of a run that succeeds, or that the walk has ended, is made of the lines of records
that stand in blocks, one for each file that the walk has given, and no file is given twice. If no
two of the files are shown alike, as is the case where their paths are texts, the records are
ordered. -/
theorem index_ordered (parse : SyntaxParser) (disk : Stream) (config : IndexingConfig)
    (files after : FileSystem) (root : PathName) (result : Except Failure IndexReport)
    (named : files.root.wellNamed = true) (unlimited : disk.room = none)
    (run : files.index parse disk config root = (result, after))
    (ended : (∃ report, result = .ok report) ∨
      ∃ directory reason, result = .error (.indexing (.walkFailed directory reason))) :
    ∃ location made paths records, files.createStore config.outputPath = .ok (location, made) ∧
      paths = (made.harvestAt config root).1.map (·.path) ∧ paths.Nodup ∧
      Stores after location (Store.bytes records) ∧ Store.Blocks paths records ∧
      (paths.Pairwise (fun path other => PathName.display path ≠ PathName.display other) →
        Store.Ordered records) ∧
      ((∀ path ∈ paths, ∃ text : String, path = Text.encode text) → Store.Ordered records) := by
  obtain ⟨location, made, created, stores⟩ :=
    stores_of_ended parse disk config files after root result unlimited run ended
  have names := createStore_wellNamed files made config.outputPath location created named
  have distinct := distinct_traversal (IndexRun.rules config) made names root
  have blocks := IndexRun.blocks_chunksOf parse config
    (made.seenAt parse disk config root location)
  rw [seenAt, Site.path_readings] at blocks
  have once : ((made.harvestAt config root).1.map (·.path)).Nodup := List.pairwise_map.mpr distinct
  exact ⟨location, made, _, _, created, rfl, once, stores, blocks, blocks.ordered,
    fun texts => blocks.ordered (PathName.pairwise_display once texts)⟩

/-- Two files of one name in two directories, with one function each. -/
def twinFiles : FileSystem where
  root := .folder [
    ("repo", .folder [
      ("f.py", .file (Text.encode "def f(): pass\n")),
      ("sub", .folder [("f.py", .file (Text.encode "def f(): pass\n"))])])]
  workingDirectory := []

theorem index_ordered_twinFiles :
    ∃ report after location records,
      twinFiles.index mixedTrees {} { outputPath := "out.jsonl" } "repo" = (.ok report, after) ∧
      report.chunksWritten = 2 ∧ Stores after location (Store.bytes records) ∧
      Store.Ordered records := by
  obtain ⟨report, after, indexed⟩ := Indexed.exists_of_completes mixedTrees {}
    { outputPath := "out.jsonl" } _ twinFiles _ "repo" ["repo"] ["out.jsonl"] rfl (by decide) rfl
    ⟨rfl, rfl, rfl, rfl⟩
  obtain ⟨location, made, paths, records, created, same, -, stores, -, -, ordered⟩ :=
    index_ordered mixedTrees {} { outputPath := "out.jsonl" } twinFiles after "repo" (.ok report)
      rfl rfl indexed.run (.inl ⟨report, rfl⟩)
  have two : report.chunksWritten = 2 := indexed.accounts.2.written.trans (by decide +kernel)
  have walked : paths = [Text.encode "repo/f.py", Text.encode "repo/sub/f.py"] := by
    have made' : Except.ok (_, _) = Except.ok (location, made) := created
    obtain ⟨rfl, rfl⟩ := Prod.mk.inj (Except.ok.inj made')
    exact same.trans (by decide +kernel)
  refine ⟨report, after, location, records, indexed.run, two, stores, ordered ?_⟩
  rw [walked]
  exact List.forall_mem_cons.mpr ⟨⟨_, rfl⟩, List.forall_mem_singleton.mpr ⟨_, rfl⟩⟩

/-- A name that ends in `.py`, with a byte in it that no text has. -/
def undecodable (byte : UInt8) : PathName := Text.encode "a" ++ byte :: Text.encode ".py"

/-- Files with these texts, whose names are shown alike, and a store. -/
def blurredFiles (texts : List (UInt8 × String)) (store : List UInt8) : FileSystem where
  root := .folder [
    ("repo", .directory (texts.map fun (byte, text) =>
      (undecodable byte, .file (Text.encode text)))),
    ("out.jsonl", .file store)]
  workingDirectory := []

/-- The record of a function that does nothing, the only one of its file. -/
def lonelyChunk (symbol : String) : Chunk :=
  ⟨"chunk_0", "repo/a\uFFFD.py", "def " ++ symbol ++ "(): pass", 1, 1, symbol,
    "function_definition", some "python", some .syntaxTree⟩

theorem index_blurredFiles (texts : List (UInt8 × String)) (chunks : List Chunk)
    (walked : ((blurredFiles texts []).harvestAt { outputPath := "out.jsonl" } "repo").2 = none)
    (cut : IndexRun.chunksOf mixedTrees { outputPath := "out.jsonl" }
      ((blurredFiles texts []).seenAt mixedTrees {} { outputPath := "out.jsonl" } "repo"
        ["out.jsonl"]) = chunks) :
    ∃ report, (blurredFiles texts []).index mixedTrees {} { outputPath := "out.jsonl" } "repo" =
      (.ok report, blurredFiles texts (Store.bytes chunks)) := by
  have created : (blurredFiles texts []).createStore "out.jsonl" =
      .ok (["out.jsonl"], blurredFiles texts []) := rfl
  obtain ⟨report, run, -⟩ := index_of_completes mixedTrees {} { outputPath := "out.jsonl" } _ _
    "repo" _ rfl created ⟨walked, rfl, rfl, rfl⟩
  rw [linesAt, IndexRun.linesOf, cut] at run
  exact ⟨report, run⟩

/-- Both records have the same file and id. -/
theorem not_ordered_blurredFiles :
    ∃ report,
      (blurredFiles [(0xff, "def f(): pass\n"), (0xfe, "def f(): pass\n")] []).index mixedTrees {}
          { outputPath := "out.jsonl" } "repo" =
        (.ok report, blurredFiles [(0xff, "def f(): pass\n"), (0xfe, "def f(): pass\n")]
          (Store.bytes [lonelyChunk "f", lonelyChunk "f"])) ∧
      ¬ Store.Ordered [lonelyChunk "f", lonelyChunk "f"] := by
  obtain ⟨report, run⟩ := index_blurredFiles [(0xff, "def f(): pass\n"), (0xfe, "def f(): pass\n")]
    [lonelyChunk "f", lonelyChunk "f"] (by decide +kernel) (by decide +kernel)
  exact ⟨report, run, fun ordered => (List.pairwise_pair.mp ordered.distinct) rfl⟩

end FileSystem

end SourceIndex
