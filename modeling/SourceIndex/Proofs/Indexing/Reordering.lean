import SourceIndex.Proofs.Indexing.RecordOrder
import SourceIndex.Proofs.Store.Sorting
import SourceIndex.Proofs.Walk.Reordering

set_option autoImplicit false

namespace SourceIndex

/-- Two reports with the same counts, and with the same errors in some order. -/
structure IndexReport.Reordered (report other : IndexReport) : Prop where
  indexed : report.filesIndexed = other.filesIndexed
  skipped : report.filesSkipped = other.filesSkipped
  written : report.chunksWritten = other.chunksWritten
  dropped : report.emptyChunksDropped = other.emptyChunksDropped
  errors : report.errors.Perm other.errors

namespace IndexRun

variable (parse : SyntaxParser) (config : IndexingConfig)

theorem droppedOf_of_perm {seen others : List SourceFile} (same : seen.Perm others) :
    droppedOf parse config seen = droppedOf parse config others := by
  refine (same.filterMap _).foldl_eq' (fun extraction _ extraction' _ others => ?_) 0
  exact Nat.add_right_comm _ _ _

theorem chunksOf_perm {seen others : List SourceFile} (same : seen.Perm others) :
    (chunksOf parse config seen).Perm (chunksOf parse config others) :=
  (same.filterMap _).flatMap_right _

/-- The records that show one file are cut out of the files that are shown so. -/
theorem ofFile_chunksOf (shown : String) (seen : List SourceFile) :
    Store.ofFile shown (chunksOf parse config seen) =
      chunksOf parse config (seen.filter fun file => file.shown == shown) := by
  induction seen with
  | nil => rfl
  | cons file later ih =>
      cases accepted : accepted? parse config file with
      | none =>
          rw [chunksOf_cons_of_rejected parse config file later accepted, ih, List.filter_cons]
          split
          · rw [chunksOf_cons_of_rejected parse config file _ accepted]
          · rfl
      | some extraction =>
          have block := numbered_of_accepted parse config file extraction accepted
          rw [chunksOf_cons_of_accepted parse config file later extraction accepted,
            Store.ofFile, List.filter_append, ← Store.ofFile, ← Store.ofFile, ih, List.filter_cons]
          by_cases here : file.shown == shown
          · have own : Store.ofFile shown extraction.chunks = extraction.chunks :=
              List.filter_eq_self.mpr fun chunk member => block.file chunk member ▸ here
            rw [if_pos here, own,
              chunksOf_cons_of_accepted parse config file _ extraction accepted]
          · have none : Store.ofFile shown extraction.chunks = [] :=
              List.filter_eq_nil_iff.mpr fun chunk member => block.file chunk member ▸ here
            rw [if_neg here, none, List.nil_append]

/-- A file that is shown like no other has the same records wherever it is met. -/
theorem ofFile_chunksOf_of_perm {seen others : List SourceFile} (same : seen.Perm others)
    (shown : String) (once : seen.countP (fun file => file.shown == shown) ≤ 1) :
    Store.ofFile shown (chunksOf parse config seen) =
      Store.ofFile shown (chunksOf parse config others) := by
  have kept := same.filter fun file => file.shown == shown
  rw [List.countP_eq_length_filter] at once
  rw [ofFile_chunksOf, ofFile_chunksOf]
  generalize seen.filter (fun file => file.shown == shown) = first at kept once ⊢
  match first with
  | [] => rw [kept.nil_eq]
  | [file] => rw [List.singleton_perm.mp kept]
  | _ :: _ :: later => exact absurd once (by simp)

end IndexRun

theorem PathName.countP_display_le_one {paths : List PathName}
    (apart : paths.Pairwise fun path other => display path ≠ display other) (shown : String) :
    paths.countP (fun path => display path == shown) ≤ 1 := by
  have once := List.nodup_iff_count_le_one.mp (List.pairwise_map.mpr apart) shown
  rwa [List.count, List.countP_map] at once

namespace FileSystem

variable {parse : SyntaxParser} {disk : Stream} {config : IndexingConfig} {root : PathName}
  {location : Location} {files others : FileSystem}

theorem Reordered.meet (reordered : files.Reordered others) (base : Location) :
    others.meet base = files.meet base := by
  funext found
  rw [FileSystem.meet, FileSystem.meet]
  rcases reordered.entryAt_cases (base ++ found.place) with
    ⟨none, none'⟩ | ⟨held, held', here, here', same⟩
  · rw [none, none']
  · rw [here, here']
    cases same <;> rfl

theorem Reordered.opened (reordered : files.Reordered others) (place : Location) :
    others.opened place disk = files.opened place disk := by
  rw [FileSystem.opened, FileSystem.opened]
  rcases reordered.entryAt_cases place with ⟨none, none'⟩ | ⟨held, held', here, here', same⟩
  · rw [none, none']
  · rw [here, here']
    cases same <;> rfl

theorem Indexed.reordered {entries : Listing} {report : IndexReport} {after : FileSystem}
    (indexed : Indexed parse disk config entries files root report after location)
    (reordered : files.Reordered others) :
    ∃ entries' report' after',
      Indexed parse disk config entries' others root report' after' location := by
  obtain ⟨⟨place, rooted, outside⟩, ⟨made, created⟩, run⟩ := indexed
  obtain ⟨-, completes, -⟩ := accounts_of_index run created
  obtain ⟨⟨_, entry⟩, rooted', rfl, listed⟩ := (reordered.find root).of_ok rooted
  obtain ⟨made', created', same⟩ := reordered.exists_createStore created
  cases listed with
  | directory listed =>
      refine ⟨_, Indexed.exists_of_completes parse disk config _ others made' root place location
        rooted' outside created' ?_⟩
      have walks := same.traversal (IndexRun.rules config) root
      have seen : (made.seenAt parse disk config root location).Perm
          (made'.seenAt parse disk config root location) := by
        rw [files.seenAt_of_outside parse disk config root rooted created outside,
          others.seenAt_of_outside parse disk config root rooted' created' outside,
          reordered.meet]
        exact (walks.items completes.walked).map _
      have many : (made.linesAt parse disk config root location).length =
          (made'.linesAt parse disk config root location).length :=
        ((IndexRun.chunksOf_perm parse config seen).flatMap_right _).length_eq
      have disks : made'.diskAt disk location = made.diskAt disk location :=
        congrArg StoreFile.disk (same.opened location)
      refine ⟨walks.whole.mp completes.walked, ?_⟩
      rw [disks]
      exact completes.accepts.of_length many

/-- What two runs tell that have succeeded and met files with these paths, each in an order of its
own. -/
structure TellsAlike (paths : List PathName) (location : Location) (report other : IndexReport)
    (after after' : FileSystem) : Prop where
  reports : report.Reordered other
  stores : ∃ records records', Stores after location (Store.bytes records) ∧
    Stores after' location (Store.bytes records') ∧ records.length = report.chunksWritten ∧
    records.Perm records' ∧
    (∀ shown, paths.countP (fun path => PathName.display path == shown) ≤ 1 →
      Store.ofFile shown records = Store.ofFile shown records') ∧
    (paths.Pairwise (fun path other => PathName.display path ≠ PathName.display other) →
      Store.sortedByFile records = Store.sortedByFile records') ∧
    ((∀ path ∈ paths, ∃ text : String, path = Text.encode text) →
      Store.sortedByFile records = Store.sortedByFile records')

theorem Accounts.reordered {seen seen' : List SourceFile} {report report' : IndexReport}
    {after after' : FileSystem} (accounts : Accounts parse config seen report after location)
    (accounts' : Accounts parse config seen' report' after' location) (same : seen.Perm seen') :
    report.Reordered report' := by
  have indexed : report.filesIndexed = report'.filesIndexed := by
    rw [accounts.indexed, accounts'.indexed]
    exact (same.filterMap _).length_eq
  refine ⟨indexed, ?_, ?_, ?_, ?_⟩
  · have all := same.length_eq
    have visited := accounts.visited
    have visited' := accounts'.visited
    omega
  · rw [accounts.written, accounts'.written]
    exact (IndexRun.chunksOf_perm parse config same).length_eq
  · rw [accounts.dropped, accounts'.dropped]
    exact IndexRun.droppedOf_of_perm parse config same
  · rw [accounts.errors, accounts'.errors]
    exact (same.filterMap _).map _

theorem Indexed.tellsAlike {entries entries' : Listing} {report report' : IndexReport}
    {after after' : FileSystem}
    (indexed : Indexed parse disk config entries files root report after location)
    (indexed' : Indexed parse disk config entries' others root report' after' location)
    (reordered : files.Reordered others) :
    TellsAlike (((files.treeAt root).traversal (IndexRun.rules config) root).1.map (·.path))
      location report report' after after' := by
  obtain ⟨place, rooted, -⟩ := indexed.rooted
  obtain ⟨place', rooted', -⟩ := indexed'.rooted
  obtain ⟨⟨_, entry⟩, found, rfl, listed⟩ := (reordered.find root).of_ok rooted
  rw [rooted', Except.ok.injEq, Prod.mk.injEq] at found
  obtain ⟨rfl, rfl⟩ := found
  obtain ⟨whole, accounts⟩ := indexed.accounts
  obtain ⟨-, accounts'⟩ := indexed'.accounts
  have walks := reordered.traversal (IndexRun.rules config) root
  have distinct := distinct_traversal (IndexRun.rules config) files reordered.named root
  simp only [treeAt, rooted, rooted'] at walks distinct ⊢
  rw [← meet_eq_meetBelow files place' _ ((find_eq_ok files root place' _).mp rooted).2]
    at accounts
  rw [← meet_eq_meetBelow others place' _ ((find_eq_ok others root place' _).mp rooted').2,
    reordered.meet] at accounts'
  generalize (treeOf root [] (.directory entries)).traversal (IndexRun.rules config) root = walk
    at walks distinct whole accounts ⊢
  have same := (walks.items whole).map (files.meet place')
  have each (shown : String)
      (once : (walk.1.map (·.path)).countP (fun path => PathName.display path == shown) ≤ 1) :=
    IndexRun.ofFile_chunksOf_of_perm parse config same shown
      (by rw [List.countP_map] at once ⊢; exact once)
  have sorted (apart : (walk.1.map (·.path)).Pairwise
      fun path other => PathName.display path ≠ PathName.display other) :=
    (Store.sortedByFile_eq_iff _ _).mpr fun shown =>
      each shown (PathName.countP_display_le_one apart shown)
  exact ⟨accounts.reordered accounts' same, _, _, accounts.stored, accounts'.stored,
    accounts.written.symm, IndexRun.chunksOf_perm parse config same, each, sorted,
    fun texts => sorted (PathName.pairwise_display (List.pairwise_map.mpr distinct) texts)⟩

/-- The order in which directories are listed is immaterial to a run whose store lies elsewhere: it
succeeds for each of two orders or for none, and tells the same. Only the records of files that are
shown alike may change places. -/
theorem index_reordered (parse : SyntaxParser) (disk : Stream) (config : IndexingConfig)
    (files others : FileSystem) (root : PathName) (location : Location)
    (reordered : files.Reordered others) :
    ((∃ entries report after,
          Indexed parse disk config entries files root report after location) ↔
        ∃ entries report after,
          Indexed parse disk config entries others root report after location) ∧
      ∀ entries entries' report report' after after',
        Indexed parse disk config entries files root report after location →
        Indexed parse disk config entries' others root report' after' location →
        TellsAlike (((files.treeAt root).traversal (IndexRun.rules config) root).1.map (·.path))
          location report report' after after' := by
  refine ⟨⟨?_, ?_⟩, ?_⟩
  · rintro ⟨entries, report, after, indexed⟩
    exact indexed.reordered reordered
  · rintro ⟨entries, report, after, indexed⟩
    exact indexed.reordered reordered.symm
  · intro entries entries' report report' after after' indexed indexed'
    exact indexed.tellsAlike indexed' reordered

/-- The two files with one function each, where the directory is listed before the file. -/
def twinFilesReversed : FileSystem where
  root := .folder [
    ("repo", .folder [
      ("sub", .folder [("f.py", .file (Text.encode "def f(): pass\n"))]),
      ("f.py", .file (Text.encode "def f(): pass\n"))])]
  workingDirectory := []

theorem index_reordered_twinFiles :
    ∃ report report' after after',
      twinFiles.index mixedTrees {} { outputPath := "out.jsonl" } "repo" = (.ok report, after) ∧
      twinFilesReversed.index mixedTrees {} { outputPath := "out.jsonl" } "repo" =
        (.ok report', after') ∧
      TellsAlike [Text.encode "repo/f.py", Text.encode "repo/sub/f.py"] ["out.jsonl"] report report'
        after after' := by
  have reordered : twinFiles.Reordered twinFilesReversed := by
    refine ⟨rfl, .directory (.cons _ (.directory (.of_perm ?_)) .nil), rfl⟩
    exact .swap _ _ _
  obtain ⟨report, after, indexed⟩ := Indexed.exists_of_completes mixedTrees {}
    { outputPath := "out.jsonl" } _ twinFiles _ "repo" ["repo"] ["out.jsonl"] rfl (by decide) rfl
    ⟨rfl, rfl, rfl, rfl⟩
  obtain ⟨both, alike⟩ := index_reordered mixedTrees {} { outputPath := "out.jsonl" } twinFiles
    twinFilesReversed "repo" ["out.jsonl"] reordered
  obtain ⟨entries', report', after', indexed'⟩ := both.mp ⟨_, report, after, indexed⟩
  have told := alike _ _ _ _ _ _ indexed indexed'
  have paths : ((twinFiles.treeAt "repo").traversal (IndexRun.rules { outputPath := "out.jsonl" })
      "repo").1.map (·.path) = [Text.encode "repo/f.py", Text.encode "repo/sub/f.py"] := by
    decide +kernel
  rw [paths] at told
  exact ⟨report, report', after, after', indexed.run, indexed'.run, told⟩

/-- The records of files that are shown alike stay in the order in which the files were met. -/
theorem not_sortedByFile_blurredFiles :
    (blurredFiles [(0xff, "def f(): pass\n"), (0xfe, "def g(): pass\n")] []).Reordered
        (blurredFiles [(0xfe, "def g(): pass\n"), (0xff, "def f(): pass\n")] []) ∧
      (∃ report,
        (blurredFiles [(0xff, "def f(): pass\n"), (0xfe, "def g(): pass\n")] []).index mixedTrees {}
            { outputPath := "out.jsonl" } "repo" =
          (.ok report, blurredFiles [(0xff, "def f(): pass\n"), (0xfe, "def g(): pass\n")]
            (Store.bytes [lonelyChunk "f", lonelyChunk "g"]))) ∧
      (∃ report,
        (blurredFiles [(0xfe, "def g(): pass\n"), (0xff, "def f(): pass\n")] []).index mixedTrees {}
            { outputPath := "out.jsonl" } "repo" =
          (.ok report, blurredFiles [(0xfe, "def g(): pass\n"), (0xff, "def f(): pass\n")]
            (Store.bytes [lonelyChunk "g", lonelyChunk "f"]))) ∧
      Store.sortedByFile [lonelyChunk "f", lonelyChunk "g"] ≠
        Store.sortedByFile [lonelyChunk "g", lonelyChunk "f"] := by
  refine ⟨?_, index_blurredFiles _ _ (by decide +kernel) (by decide +kernel),
    index_blurredFiles _ _ (by decide +kernel) (by decide +kernel), ?_⟩
  · refine ⟨rfl, .directory (.cons _ (.directory (.of_perm ?_)) (.refl _)), rfl⟩
    exact .swap _ _ _
  · intro same
    have first := (Store.sortedByFile_eq_iff _ _).mp same "repo/a\uFFFD.py"
    revert first
    decide +kernel

end FileSystem

end SourceIndex
