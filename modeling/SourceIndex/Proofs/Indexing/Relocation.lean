import Mathlib.Data.List.Basic
import SourceIndex.Proofs.Indexing.Account
import SourceIndex.Proofs.Walk.Relocation

set_option autoImplicit false

namespace SourceIndex

def Chunk.under (base : String) (chunk : Chunk) : Chunk := { chunk with file := base ++ chunk.file }

namespace Extraction

def under (base : String) (extraction : Extraction) : Extraction :=
  { extraction with chunks := extraction.chunks.map (Chunk.under base) }

variable (language : Language) (base path : String) (text : List Char)

theorem chunk?_under (declaration : Declaration) (index : Nat) :
    chunk? language (base ++ path) text declaration index =
      (chunk? language path text declaration index).map (Chunk.under base) := by
  simp only [chunk?, Option.bind_eq_bind]
  cases Text.sliceBytes? text declaration.first declaration.last with
  | none => rfl
  | some code =>
      simp only [Option.bind_some]
      split <;> rfl

theorem ofDeclarations_under (found : List Declaration) :
    ofDeclarations language (base ++ path) text found =
      (ofDeclarations language path text found).under base := by
  simp only [ofDeclarations, under, chunk?_under, ← List.map_filterMap, List.length_map]

theorem ofText_under (parse : SyntaxParser) (tolerant : Bool) :
    (ofText parse language tolerant (base ++ path) text).toOption =
      (ofText parse language tolerant path text).toOption.map (under base) := by
  simp only [ofText, bind, Except.bind]
  cases declarations language tolerant (parse language (LineEnds.sanitize language text)) with
  | error fault => rfl
  | ok found => exact congrArg some (ofDeclarations_under language base path text found)

end Extraction

/-- A file as it is met below a base, and read as it is. -/
def SourceFile.under (base : PathName) (file : SourceFile) : SourceFile :=
  { file with path := base ++ file.path }

namespace IndexRun

variable (parse : SyntaxParser) (config : IndexingConfig)

/-- What is cut out of a file in a given language, whatever the rules say of it. -/
def cut? (language : Language) (file : SourceFile) : Option Extraction := do
  let bytes ← file.reading.bytes?
  if bytes.length ≤ config.maxFileSize then
    (Extraction.ofText parse language config.allowPartialParse file.shown
      (Text.decodeLossy bytes)).toOption
  else none

theorem accepted?_eq_cut? (file : SourceFile) :
    accepted? parse config file =
      (candidate? config file.path).bind (cut? parse config · file) := rfl

theorem cut?_under (language : Language) {base : PathName} (closed : PathName.Closed base)
    (file : SourceFile) :
    cut? parse config language (file.under base) =
      (cut? parse config language file).map (Extraction.under (PathName.display base)) := by
  simp only [cut?, SourceFile.under, SourceFile.shown, PathName.display_under closed,
    Option.bind_eq_bind]
  cases file.reading.bytes? with
  | none => rfl
  | some bytes =>
      simp only [Option.bind_some]
      split
      · exact Extraction.ofText_under language _ (PathName.display file.path) _ parse
          config.allowPartialParse
      · rfl

/-- Without patterns, a file is a candidate below both bases or below neither. -/
theorem candidate?_under {base base' : PathName} (closed : PathName.Closed base)
    (closed' : PathName.Closed base') (marks : Exclusion.marks base = Exclusion.marks base')
    (plain : config.excludePatterns = []) (path : PathName) (some : PathName.segments path ≠ []) :
    candidate? config (base ++ path) = candidate? config (base' ++ path) := by
  simp only [candidate?, rules, plain, Exclusion.skips, List.any_nil, Bool.or_false,
    Exclusion.skipsFile_under closed, Exclusion.skipsFile_under closed', marks,
    Language.ofPath?_under closed path some, Language.ofPath?_under closed' path some]

/-- What is cut out of the files below a base. -/
def cutBelow (base : PathName) (below : List SourceFile) : List Extraction :=
  below.filterMap fun file =>
    (candidate? config (base ++ file.path)).bind (cut? parse config · file)

theorem filterMap_accepted?_under {base : PathName} (closed : PathName.Closed base)
    (below : List SourceFile) :
    (below.map (SourceFile.under base)).filterMap (accepted? parse config) =
      (cutBelow parse config base below).map (Extraction.under (PathName.display base)) := by
  rw [List.filterMap_map, cutBelow, List.map_filterMap]
  congr 1
  funext file
  rw [Function.comp_apply, accepted?_eq_cut?, Option.map_bind]
  congr 1
  funext language
  exact cut?_under parse config language closed file

theorem cutBelow_eq {base base' : PathName} (closed : PathName.Closed base)
    (closed' : PathName.Closed base') (marks : Exclusion.marks base = Exclusion.marks base')
    (plain : config.excludePatterns = []) (below : List SourceFile)
    (some : ∀ file ∈ below, PathName.segments file.path ≠ []) :
    cutBelow parse config base below = cutBelow parse config base' below := by
  refine List.filterMap_congr fun file member => ?_
  rw [candidate?_under config closed closed' marks plain file.path (some file member)]

theorem chunksOf_under {base : PathName} (closed : PathName.Closed base)
    (below : List SourceFile) :
    chunksOf parse config (below.map (SourceFile.under base)) =
      ((cutBelow parse config base below).flatMap (·.chunks)).map
        (Chunk.under (PathName.display base)) := by
  rw [chunksOf, filterMap_accepted?_under parse config closed]
  simp only [List.flatMap_map, List.map_flatMap, Extraction.under]

end IndexRun

namespace FileSystem

open PathName (base)

/-- Two runs over one listing, without patterns and with their stores elsewhere, that do not index
the same number of files. -/
def TellsApart (parse : SyntaxParser) (config : IndexingConfig) (files : FileSystem)
    (root root' : PathName) : Prop :=
  config.excludePatterns = [] ∧ ∃ entries report report' after after' location,
    Entry.allNamed entries = true ∧
    Indexed parse {} config entries files root report after location ∧
    Indexed parse {} config entries files root' report' after' location ∧
    report.filesIndexed ≠ report'.filesIndexed

/-- A function in a directory that is named like one of a build. -/
def distFiles : FileSystem where
  root := .folder [("dist", .folder [("f.py", .file (Text.encode "def f(): pass\n"))])]
  workingDirectory := []

/-- A function in a directory whose name is a backslash, in a directory with two paths. -/
def slantedFiles : FileSystem where
  root := .folder [
    ("test", .folder [("\\", .folder [("f.py", .file (Text.encode "def f(): pass\n"))])]),
    ("repo", .link "test")]
  workingDirectory := []

/-- A slash before the name of the root marks all files below it, and a name of backslashes alone
lets the root be judged. -/
theorem tellsApart_distFiles :
    TellsApart mixedTrees { outputPath := "out.jsonl" } distFiles "dist" "./dist" ∧
      TellsApart mixedTrees { outputPath := "out.jsonl" } slantedFiles "test" "repo" := by
  refine ⟨⟨rfl, ?_⟩, ⟨rfl, ?_⟩⟩
  · obtain ⟨report, after, first⟩ := Indexed.exists_of_completes mixedTrees {}
      { outputPath := "out.jsonl" } _ distFiles _ "dist" ["dist"] ["out.jsonl"] rfl (by decide) rfl
      ⟨rfl, rfl, rfl, rfl⟩
    obtain ⟨report', after', second⟩ := Indexed.exists_of_completes mixedTrees {}
      { outputPath := "out.jsonl" } _ distFiles _ "./dist" ["dist"] ["out.jsonl"] rfl (by decide)
      rfl ⟨rfl, rfl, rfl, rfl⟩
    have one : report.filesIndexed = 1 := first.accounts.2.indexed.trans rfl
    have none : report'.filesIndexed = 0 := second.accounts.2.indexed.trans rfl
    exact ⟨_, report, report', after, after', _, rfl, first, second, by omega⟩
  · obtain ⟨report, after, first⟩ := Indexed.exists_of_completes mixedTrees {}
      { outputPath := "out.jsonl" } _ slantedFiles _ "test" ["test"] ["out.jsonl"] rfl (by decide)
      rfl ⟨rfl, rfl, rfl, rfl⟩
    obtain ⟨report', after', second⟩ := Indexed.exists_of_completes mixedTrees {}
      { outputPath := "out.jsonl" } _ slantedFiles _ "repo" ["test"] ["out.jsonl"] rfl (by decide)
      rfl ⟨rfl, rfl, rfl, rfl⟩
    have none : report.filesIndexed = 0 := first.accounts.2.indexed.trans rfl
    have one : report'.filesIndexed = 1 := second.accounts.2.indexed.trans rfl
    exact ⟨_, report, report', after, after', _, rfl, first, second, by omega⟩

/-- Two roots of one listing that the rules do not tell apart: what stands before the names below
them marks files in both cases or in neither, they are themselves judged alike or no directory right
below them has a name of backslashes alone, and no file has too long a path below one of them
only. -/
structure RootsAlike (config : IndexingConfig) (entries : Listing) (root root' : PathName) :
    Prop where
  marks : Exclusion.marks (base root) = Exclusion.marks (base root')
  settled : Exclusion.skipsDirectory root = Exclusion.skipsDirectory root' ∨
    ∀ name entry, (name, entry) ∈ entries → entry.isDirectory = true →
      ∃ byte ∈ name, byte ≠ (0x5C : UInt8)
  lengths : ∀ path place, ⟨base root ++ path, place⟩ ∈
      ((treeOf root [] (.directory entries)).traversal (IndexRun.rules config) root).1 →
    fits (base root ++ path) = fits (base root' ++ path)

theorem RootsAlike.settled_below {config : IndexingConfig} {entries : Listing}
    {root root' : PathName} (alike : RootsAlike config entries root root')
    (named : Entry.allNamed entries = true) (name : PathName) (entry : Entry)
    (member : (name, entry) ∈ entries) (directory : entry.isDirectory = true) :
    Settled (base root) (base root') name := by
  rcases alike.settled with same | proper
  · exact .inl (by rw [Exclusion.skipsDirectory_base, Exclusion.skipsDirectory_base, same])
  · exact .of_isName (Entry.isName_of_allNamed entries named name _ member)
      (proper name entry member directory)

/-- Paths that are short enough for either base do not tell them apart. -/
theorem fits_of_short (base base' : PathName) (walked : List Found)
    (short : ∀ found ∈ walked, found.path.length + base'.length ≤ pathLimit)
    (path : PathName) (place : Location) (member : ⟨base ++ path, place⟩ ∈ walked) :
    fits (base ++ path) = fits (base' ++ path) := by
  have bound := short _ member
  simp only [List.length_append] at bound
  have one : (base ++ path).length ≤ pathLimit := by
    rw [List.length_append]
    omega
  have other : (base' ++ path).length ≤ pathLimit := by
    rw [List.length_append]
    omega
  simp only [fits, one, other]

theorem readingOf_eq_of_fits {path other : PathName} (same : fits path = fits other)
    (held : Option Entry) : readingOf path held = readingOf other held := by
  unfold readingOf
  rw [same]

/-- What is read of the files below one base is what is read below the other, if the system takes
the path of each file below both or below neither. -/
theorem map_meetBelow_under (entry : Entry) (base base' : PathName) (below : List Found)
    (lengths : ∀ found ∈ below, fits (base ++ found.path) = fits (base' ++ found.path)) :
    ∃ files : List SourceFile, files.map (·.path) = below.map (·.path) ∧
      (below.map (Found.under base)).map (meetBelow entry) =
        files.map (SourceFile.under base) ∧
      (below.map (Found.under base')).map (meetBelow entry) =
        files.map (SourceFile.under base') := by
  refine ⟨below.map fun found => ⟨found.path,
    readingOf (base ++ found.path) (entryFrom entry found.place)⟩, ?_, ?_, ?_⟩
  · rw [List.map_map]
    rfl
  · rw [List.map_map, List.map_map]
    rfl
  · rw [List.map_map, List.map_map]
    refine List.map_congr_left fun found member => ?_
    exact congrArg (SourceFile.mk _) (readingOf_eq_of_fits (lengths found member).symm _)

/-- Two runs over one listing, from roots that the rules do not tell apart, index the same number
of files and skip the same number, and there are records for which each of them has stored the
lines, with the path of each file below its own root. -/
theorem index_relocated (parse : SyntaxParser) (disk disk' : Stream) (config : IndexingConfig)
    (entries : Listing) (files files' after after' : FileSystem) (root root' : PathName)
    (report report' : IndexReport) (location location' : Location)
    (first : Indexed parse disk config entries files root report after location)
    (second : Indexed parse disk' config entries files' root' report' after' location')
    (named : Entry.allNamed entries = true) (plain : config.excludePatterns = [])
    (alike : RootsAlike config entries root root') :
    report.filesIndexed = report'.filesIndexed ∧ report.filesSkipped = report'.filesSkipped ∧
      ∃ records : List Chunk,
        Stores after location
          (Store.bytes (records.map (Chunk.under (PathName.display (base root))))) ∧
        Stores after' location'
          (Store.bytes (records.map (Chunk.under (PathName.display (base root'))))) := by
  obtain ⟨whole, indexed, visited, -, -, -, stored⟩ := first.accounts
  obtain ⟨whole', indexed', visited', -, -, -, stored'⟩ := second.accounts
  obtain ⟨below, some, walked, walked'⟩ := sameBelow_traversal (IndexRun.rules config) root root'
    first.root_ne second.root_ne entries named (alike.settled_below named) whole whole'
  have lengths : ∀ found ∈ below,
      fits (base root ++ found.path) = fits (base root' ++ found.path) := by
    intro found member
    refine alike.lengths found.path found.place ?_
    rw [walked]
    exact List.mem_map_of_mem member
  obtain ⟨seen, paths, read, read'⟩ := map_meetBelow_under (.directory entries) _ _ below lengths
  have proper : ∀ file ∈ seen, PathName.segments file.path ≠ [] := by
    intro file member
    have listed := List.mem_map_of_mem (f := (·.path)) member
    rw [paths, List.mem_map] at listed
    obtain ⟨found, inside, same⟩ := listed
    exact same ▸ some found inside
  have closed := PathName.closed_base root first.root_ne
  have closed' := PathName.closed_base root' second.root_ne
  have cut := IndexRun.cutBelow_eq parse config closed closed' alike.marks plain seen proper
  rw [walked, read] at indexed visited stored
  rw [walked', read'] at indexed' visited' stored'
  rw [IndexRun.filterMap_accepted?_under parse config closed, List.length_map] at indexed
  rw [IndexRun.filterMap_accepted?_under parse config closed', List.length_map, ← cut] at indexed'
  rw [List.length_map] at visited visited'
  rw [IndexRun.linesOf, IndexRun.chunksOf_under parse config closed] at stored
  rw [IndexRun.linesOf, IndexRun.chunksOf_under parse config closed', ← cut] at stored'
  refine ⟨indexed.trans indexed'.symm, by omega, ?_⟩
  exact ⟨(IndexRun.cutBelow parse config (base root) seen).flatMap (·.chunks), stored, stored'⟩

theorem index_relocated_mixedFiles :
    ∃ report report' after after', ∃ records : List Chunk,
      mixedFiles.index mixedTrees {} { outputPath := "out.jsonl" } "repo" = (.ok report, after) ∧
      mixedFiles.index mixedTrees {} { outputPath := "out.jsonl" } "./repo" =
        (.ok report', after') ∧
      report.filesIndexed = 1 ∧ report'.filesIndexed = 1 ∧
      Stores after ["out.jsonl"] (Store.bytes (records.map (Chunk.under "repo/"))) ∧
      Stores after' ["out.jsonl"] (Store.bytes (records.map (Chunk.under "./repo/"))) := by
  obtain ⟨report, after, first⟩ := Indexed.exists_of_completes mixedTrees {}
    { outputPath := "out.jsonl" } _ mixedFiles _ "repo" ["repo"] ["out.jsonl"] rfl (by decide) rfl
    ⟨rfl, rfl, rfl, rfl⟩
  obtain ⟨report', after', second⟩ := Indexed.exists_of_completes mixedTrees {}
    { outputPath := "out.jsonl" } _ mixedFiles _ "./repo" ["repo"] ["out.jsonl"] rfl (by decide) rfl
    ⟨rfl, rfl, rfl, rfl⟩
  have one : report.filesIndexed = 1 := first.accounts.2.indexed.trans rfl
  obtain ⟨same, -, records, stored, stored'⟩ := index_relocated mixedTrees {} {}
    { outputPath := "out.jsonl" } _ mixedFiles mixedFiles after after' "repo" "./repo" report
    report' ["out.jsonl"] ["out.jsonl"] first second rfl rfl
    ⟨rfl, .inl rfl, fits_of_short _ _ _ (by decide +kernel)⟩
  exact ⟨report, report', after, after', records, first.run, second.run, one, same ▸ one, stored,
    stored'⟩

end FileSystem

end SourceIndex
