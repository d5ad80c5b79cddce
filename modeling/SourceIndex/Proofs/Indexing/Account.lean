import SourceIndex.Proofs.Indexing.Failures
import SourceIndex.Proofs.Store.Lines

set_option autoImplicit false

namespace SourceIndex.FileSystem

/-- The bytes lie at the place of a store, unless that is a device, which keeps nothing. -/
def Stores (files : FileSystem) (location : Location) (bytes : List UInt8) : Prop :=
  files.entryAt location = some (.file bytes) ∨
    ∃ kind, files.entryAt location = some (.device kind)

theorem stores_keep {files made : FileSystem} {target : String} {location : Location}
    (created : files.createStore target = .ok (location, made)) (received : List UInt8) :
    Stores (made.keep location received) location received := by
  by_cases device : ∃ kind, made.entryAt location = some (.device kind)
  · obtain ⟨kind, there⟩ := device
    refine .inr ⟨kind, ?_⟩
    simp only [keep, there]
  · have empty := entryAt_of_createStore files made target location created
      fun kind there => device ⟨kind, there⟩
    exact .inl (entryAt_keep made location received [] empty)

/-- What the report and the store of a run say of the files that it has gone over. -/
structure Accounts (parse : SyntaxParser) (config : IndexingConfig) (seen : List SourceFile)
    (report : IndexReport) (after : FileSystem) (location : Location) : Prop where
  indexed : report.filesIndexed = (seen.filterMap (IndexRun.accepted? parse config)).length
  visited : report.filesIndexed + report.filesSkipped = seen.length
  dropped : report.emptyChunksDropped = IndexRun.droppedOf parse config seen
  errors : report.errors = (seen.filterMap (IndexRun.complaint? parse config)).map Failure.message
  written : report.chunksWritten = (IndexRun.chunksOf parse config seen).length
  stored : Stores after location (IndexRun.linesOf parse config seen)

variable {parse : SyntaxParser} {disk : Stream} {config : IndexingConfig}
  {files made after : FileSystem} {root : PathName} {report : IndexReport}
  {place location : Location} {entries : Listing}

/-- Wherever the store lies, a run that has succeeded had all it takes once its store was made, and
has given account of what it has read. -/
theorem accounts_of_index (run : files.index parse disk config root = (.ok report, after))
    (created : files.createStore config.outputPath = .ok (location, made)) :
    files.checkRoot root = .ok () ∧ made.Completes parse disk config root location ∧
      after = made.keep location (made.linesAt parse disk config root location) ∧
      Accounts parse config (made.seenAt parse disk config root location) report after
        location := by
  have ends := files.index_ends parse disk config root
  rw [run] at ends
  cases ends with
  | whole location' made' last rooted created' completes tallies =>
      rw [created, Except.ok.injEq, Prod.mk.injEq] at created'
      obtain ⟨rfl, rfl⟩ := created'
      exact ⟨rooted, completes, rfl, tallies.indexed, tallies.visited, tallies.dropped,
        tallies.errors, tallies.written, stores_keep created _⟩

/-- A run that has made its store and then has all it takes gives account of what it has read. -/
theorem index_of_completes (parse : SyntaxParser) (disk : Stream) (config : IndexingConfig)
    (files made : FileSystem) (root : PathName) (location : Location)
    (rooted : files.checkRoot root = .ok ())
    (created : files.createStore config.outputPath = .ok (location, made))
    (completes : made.Completes parse disk config root location) :
    ∃ report,
      files.index parse disk config root =
        (.ok report, made.keep location (made.linesAt parse disk config root location)) ∧
      Accounts parse config (made.seenAt parse disk config root location) report
        (made.keep location (made.linesAt parse disk config root location)) location := by
  obtain ⟨report, after, run⟩ := (files.succeeds_iff parse disk config root).mpr
    ⟨location, made, rooted, created, completes⟩
  obtain ⟨-, -, rfl, accounts⟩ := accounts_of_index run created
  exact ⟨report, run, accounts⟩

theorem checkRoot_of_find (rooted : files.find root = .ok (place, .directory entries)) :
    files.checkRoot root = .ok () := by
  simp only [checkRoot, rooted]
  rfl

/-- What is found below an entry, read as it lies there. -/
def meetBelow (entry : Entry) (found : Found) : SourceFile :=
  ⟨found.path, readingOf found.path (entryFrom entry found.place)⟩

theorem meet_eq_meetBelow (files : FileSystem) (place : Location) (entry : Entry)
    (held : files.entryAt place = some entry) : files.meet place = meetBelow entry := by
  funext found
  rw [meet, entryAt, entryFrom_append, show entryFrom files.root place = some entry from held]
  rfl

/-- A run over a directory with the given entries that has succeeded, with its store elsewhere. -/
structure Indexed (parse : SyntaxParser) (disk : Stream) (config : IndexingConfig)
    (entries : Listing) (files : FileSystem) (root : PathName) (report : IndexReport)
    (after : FileSystem) (location : Location) : Prop where
  rooted : ∃ place, files.find root = .ok (place, .directory entries) ∧ ¬ place <+: location
  created : ∃ made, files.createStore config.outputPath = .ok (location, made)
  run : files.index parse disk config root = (.ok report, after)

namespace Indexed

theorem root_ne (indexed : Indexed parse disk config entries files root report after location) :
    root ≠ [] := by
  obtain ⟨place, found, -⟩ := indexed.rooted
  obtain ⟨resolved, -⟩ := (find_eq_ok files root place _).mp found
  rintro rfl
  cases resolved

/-- The walk of a run that has succeeded is whole, and the run has given account of the files as
they lay in the directory before. -/
theorem accounts (indexed : Indexed parse disk config entries files root report after location) :
    let walked := (treeOf root [] (.directory entries)).traversal (IndexRun.rules config) root
    walked.2 = none ∧
      Accounts parse config (walked.1.map (meetBelow (.directory entries))) report after
        location := by
  intro walked
  obtain ⟨⟨place, found, outside⟩, ⟨made, created⟩, run⟩ := indexed
  obtain ⟨-, completes, -, accounts⟩ := accounts_of_index run created
  have keeps := createStore_keepsWalk files made config.outputPath location place created outside
  have same := keeps.treeAt root entries found (IndexRun.rules config) completes.walked
  have tree : files.treeAt root = treeOf root [] (.directory entries) := by
    simp only [treeAt, found]
  rw [tree] at same
  have walkedSame : walked = made.harvestAt config root := same
  rw [files.seenAt_of_outside parse disk config root found created outside,
    meet_eq_meetBelow files place _ ((find_eq_ok files root place _).mp found).2] at accounts
  rw [walkedSame]
  exact ⟨completes.walked, accounts⟩

theorem exists_of_completes (parse : SyntaxParser) (disk : Stream) (config : IndexingConfig)
    (entries : Listing) (files made : FileSystem) (root : PathName) (place location : Location)
    (rooted : files.find root = .ok (place, .directory entries)) (outside : ¬ place <+: location)
    (created : files.createStore config.outputPath = .ok (location, made))
    (completes : made.Completes parse disk config root location) :
    ∃ report after, Indexed parse disk config entries files root report after location := by
  obtain ⟨report, run, -⟩ := index_of_completes parse disk config files made root location
    (checkRoot_of_find rooted) created completes
  exact ⟨report, _, ⟨place, rooted, outside⟩, ⟨made, created⟩, run⟩

end Indexed

/-- The store of a run whose walk fails nowhere holds the lines of the chunks of all accepted files
in the order of the walk, and the report counts the files. -/
theorem index_tallies (parse : SyntaxParser) (disk : Stream) (files made : FileSystem)
    (config : IndexingConfig) (root : PathName) (place location : Location) (entries : Listing)
    (rooted : files.find root = .ok (place, .directory entries))
    (created : files.createStore config.outputPath = .ok (location, made))
    (regular : ∀ kind, made.entryAt location ≠ some (.device kind))
    (outside : ¬ place <+: location)
    (readable : ((made.treeAt root).traversal (IndexRun.rules config) root).2 = none)
    (accepts : disk.Accepts (IndexRun.linesOf parse config
      (((files.treeAt root).traversal (IndexRun.rules config) root).1.map (files.meet place)))) :
    let yielded :=
      ((files.treeAt root).traversal (IndexRun.rules config) root).1.map (files.meet place)
    let accepted := yielded.filterMap (IndexRun.accepted? parse config)
    ∃ report after store, files.index parse disk config root = (.ok report, after) ∧
      after.entryAt location = some (.file store) ∧
      store = accepted.flatMap (fun extraction =>
        extraction.chunks.flatMap fun chunk => Text.encode chunk.line) ∧
      report.filesIndexed = accepted.length ∧
      report.filesIndexed + report.filesSkipped = yielded.length ∧
      report.errors = (yielded.filterMap (IndexRun.complaint? parse config)).map Failure.message ∧
      report.chunksWritten = store.count 10 := by
  intro yielded accepted
  have keeps := createStore_keepsWalk files made config.outputPath location place created outside
  have same : (files.treeAt root).traversal (IndexRun.rules config) root =
      made.harvestAt config root :=
    keeps.treeAt root entries rooted (IndexRun.rules config) readable
  have seen : made.seenAt parse disk config root location = yielded := by
    rw [files.seenAt_of_outside parse disk config root rooted created outside, ← same]
  have room : (made.diskAt disk location).Accepts
      (made.linesAt parse disk config root location) := by
    rw [made.diskAt_of_regular disk location regular, linesAt, seen]
    exact ⟨accepts.room, accepts.flushes, accepts.closes⟩
  obtain ⟨report, run, accounts⟩ := index_of_completes parse disk config files made root location
    (checkRoot_of_find rooted) created ⟨readable, room⟩
  rw [linesAt, seen] at run
  rw [seen] at accounts
  have empty := entryAt_of_createStore files made config.outputPath location created regular
  refine ⟨report, _, _, run, entryAt_keep made location _ [] empty, ?_, accounts.indexed,
    accounts.visited, accounts.errors, ?_⟩
  · rw [IndexRun.linesOf, IndexRun.chunksOf, Store.bytes, List.flatMap_assoc]
  · rw [accounts.written, IndexRun.linesOf, Store.bytes, ← Store.utf8_text,
      Text.count_utf8_newLine, Store.count_text]

/-- A directory with a function, a text that does not parse and a document; a store is there too. -/
def mixedFiles : FileSystem where
  root := .folder [
    ("repo", .folder [
      ("f.py", .file (Text.encode "def f(): pass\n")),
      ("open.py", .file (Text.encode "(")),
      ("README.md", .file [])]),
    ("out.jsonl", .file [1, 2, 3])]
  workingDirectory := []

private def token (kind : String) (named : Bool) (first last : Nat) (labels : List String)
    (children : List Node) : Node :=
  .node { kind, named, hasError := false, first := ⟨first, 0⟩, last := ⟨last, 0⟩, labels } children

/-- The syntax trees of the two texts. -/
def mixedTrees : SyntaxParser := fun _ text =>
  if text == "(".toList then
    let opening := token "(" false 0 1 [] []
    let fault : Node := .node ⟨"ERROR", true, .error, true, ⟨0, 0⟩, ⟨1, 0⟩, []⟩ [opening]
    .node ⟨"module", true, .plain, true, ⟨0, 0⟩, ⟨1, 0⟩, []⟩ [fault]
  else
    let body := token "block" true 9 13 ["body"]
      [token "pass_statement" true 9 13 [] [token "pass" false 9 13 [] []]]
    let parameters := token "parameters" true 5 7 ["parameters"]
      [token "(" false 5 6 [] [], token ")" false 6 7 [] []]
    let function := token "function_definition" true 0 13 []
      [token "def" false 0 3 [] [], token "identifier" true 4 5 ["name"] [], parameters,
        token ":" false 7 8 [] [], body]
    .node ⟨"module", true, .plain, false, ⟨0, 0⟩, ⟨14, 1⟩, []⟩ [function]

theorem index_tallies_mixedFiles :
    ∃ report after store,
      mixedFiles.index mixedTrees {} { outputPath := "out.jsonl" } "repo" = (.ok report, after) ∧
      after.entryAt ["out.jsonl"] = some (.file store) ∧ report.chunksWritten = store.count 10 ∧
      report.filesIndexed = 1 ∧ report.filesSkipped = 2 ∧ report.errors.length = 1 := by
  obtain ⟨report, after, store, run, kept, -, indexed, seen, errors, written⟩ :=
    index_tallies mixedTrees {} mixedFiles _ { outputPath := "out.jsonl" } "repo" ["repo"]
      ["out.jsonl"] _ rfl rfl (fun kind device => nomatch device) (by decide) rfl
      ⟨rfl, rfl, rfl⟩
  have one : report.filesIndexed = 1 := indexed.trans rfl
  have three : report.filesIndexed + report.filesSkipped = 3 := seen.trans rfl
  refine ⟨report, after, store, run, kept, written, one, by omega, ?_⟩
  rw [errors]
  rfl

end SourceIndex.FileSystem
