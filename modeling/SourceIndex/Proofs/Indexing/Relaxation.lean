import Mathlib.Data.List.Flatten
import SourceIndex.Proofs.Indexing.Account

set_option autoImplicit false

namespace SourceIndex

namespace Exclusion

variable (lax strict : Exclusion)

/-- The first rules leave out no more than the second ones. -/
structure Relaxes : Prop where
  patterns : ∀ pattern ∈ lax.patterns, pattern ∈ strict.patterns
  directories : ∀ name ∈ lax.directories, name ∈ strict.directories

variable {lax strict : Exclusion}

theorem Relaxes.skips (relaxes : lax.Relaxes strict) (path : PathName)
    (skipped : lax.skips path = true) : strict.skips path = true := by
  rw [Exclusion.skips, Bool.or_eq_true] at skipped ⊢
  rcases skipped with builtIn | listed
  · exact .inl builtIn
  · obtain ⟨pattern, member, stands⟩ := List.any_eq_true.mp listed
    exact .inr (List.any_eq_true.mpr ⟨pattern, relaxes.patterns pattern member, stands⟩)

theorem Relaxes.prunes (relaxes : lax.Relaxes strict) (path : PathName)
    (pruned : lax.prunes path = true) : strict.prunes path = true := by
  rw [Exclusion.prunes, Bool.or_eq_true] at pruned ⊢
  rcases pruned with builtIn | listed
  · exact .inl builtIn
  · obtain ⟨name, named, among⟩ := (Option.any_eq_true _ _).mp listed
    rw [List.contains_iff_mem] at among
    exact .inr ((Option.any_eq_true _ _).mpr
      ⟨name, named, List.contains_iff_mem.mpr (relaxes.directories name among)⟩)

end Exclusion

/-- If both harvests are whole, the items of the first are a subsequence of those of the second. -/
def Harvest.Within {α ε : Type} (first second : Harvest α ε) : Prop :=
  first.2 = none → second.2 = none → first.1.Sublist second.1

theorem Harvest.Within.followedBy {α ε : Type} {first first' later later' : Harvest α ε}
    (firsts : first.Within first') (laters : later.Within later') :
    (first.followedBy later).Within (first'.followedBy later') := by
  intro whole whole'
  obtain ⟨items, _ | failure⟩ := first
  · obtain ⟨items', _ | failure⟩ := first'
    · exact (firsts rfl rfl).append (laters whole whole')
    · cases whole'
  · cases whole

namespace Tree

open Harvest (Within)

variable {lax strict : Exclusion}

mutual

theorem within_files (relaxes : lax.Relaxes strict) (path : PathName) (tree : Tree) :
    Within (files strict path tree) (files lax path tree) := by
  match tree with
  | file place =>
      rw [files, files]
      exact fun _ _ => List.Sublist.refl _
  | other =>
      rw [files, files]
      exact fun _ _ => List.Sublist.refl _
  | closed reason =>
      intro whole _
      rw [files] at whole ⊢
      split at whole
      · rename_i pruned
        rw [if_pos pruned]
        exact List.nil_sublist _
      · cases whole
  | directory entries =>
      cases pruned : strict.prunes path with
      | true =>
          intro _ _
          rw [files, if_pos pruned]
          exact List.nil_sublist _
      | false =>
          -- What the stricter rules keep, the others keep too.
          have kept : ¬ lax.prunes path = true := fun left => by
            rw [relaxes.prunes path left] at pruned
            cases pruned
          rw [files, files, pruned, if_neg kept]
          exact within_filesIn relaxes path entries

theorem within_filesIn (relaxes : lax.Relaxes strict) (path : PathName)
    (entries : List (PathName × Tree)) :
    Within (filesIn strict path entries) (filesIn lax path entries) := by
  match entries with
  | [] =>
      rw [filesIn, filesIn]
      exact fun _ _ => List.Sublist.refl _
  | (name, tree) :: later =>
      rw [filesIn_cons, filesIn_cons]
      exact (within_files relaxes (PathName.join path name) tree).followedBy
        (within_filesIn relaxes path later)

end

theorem within_traversal (relaxes : lax.Relaxes strict) (root : PathName) (tree : Tree) :
    Within (tree.traversal strict root) (tree.traversal lax root) := by
  cases tree with
  | directory entries => exact within_filesIn relaxes root entries
  | file place => exact fun whole => nomatch whole
  | closed reason => exact fun whole => nomatch whole
  | other => exact fun whole => nomatch whole

end Tree

/-- A policy that leaves out no more than another one. -/
structure IndexingConfig.Relaxes (lax strict : IndexingConfig) : Prop where
  rules : (IndexRun.rules lax).Relaxes (IndexRun.rules strict)
  size : strict.maxFileSize ≤ lax.maxFileSize
  partialParse : strict.allowPartialParse = true → lax.allowPartialParse = true

/-- A text that is cut up without tolerance for faults has none, so tolerance changes nothing. -/
theorem Extraction.ofText_of_tolerant (parse : SyntaxParser) (language : Language)
    {tolerant tolerant' : Bool} (more : tolerant = true → tolerant' = true) (path : String)
    (text : List Char) (extraction : Extraction)
    (cut : (ofText parse language tolerant path text).toOption = some extraction) :
    (ofText parse language tolerant' path text).toOption = some extraction := by
  simp only [ofText, declarations, bind, Except.bind] at cut ⊢
  cases faulty : (parse language (LineEnds.sanitize language text)).data.hasError with
  | false =>
      rw [faulty] at cut
      exact cut
  | true =>
      cases tolerant with
      | true =>
          rw [faulty] at cut
          rw [more rfl]
          exact cut
      | false =>
          rw [faulty] at cut
          cases cut

namespace IndexRun

variable {parse : SyntaxParser} {lax strict : IndexingConfig}

theorem candidate?_of_relaxes (relaxes : lax.Relaxes strict) (path : PathName)
    (language : Language) (candidate : candidate? strict path = some language) :
    candidate? lax path = some language := by
  rw [candidate?_eq_some] at candidate ⊢
  obtain ⟨kept, known⟩ := candidate
  exact ⟨fun skipped => kept (relaxes.rules.skips path skipped), known⟩

/-- A file that the stricter policy accepts is accepted, and the same is cut out of it. -/
theorem accepted?_of_relaxes (relaxes : lax.Relaxes strict) (file : SourceFile)
    (extraction : Extraction) (accepted : accepted? parse strict file = some extraction) :
    accepted? parse lax file = some extraction := by
  simp only [accepted?, Option.bind_eq_bind, Option.bind_eq_some_iff] at accepted ⊢
  obtain ⟨language, candidate, bytes, read, cut⟩ := accepted
  refine ⟨language, candidate?_of_relaxes relaxes file.path language candidate, bytes, read, ?_⟩
  split at cut
  · rename_i small
    rw [if_pos (Nat.le_trans small relaxes.size)]
    exact Extraction.ofText_of_tolerant parse language relaxes.partialParse file.shown _ extraction
      cut
  · cases cut

theorem filterMap_accepted?_of_relaxes (relaxes : lax.Relaxes strict) (seen : List SourceFile) :
    (seen.filterMap (accepted? parse strict)).Sublist (seen.filterMap (accepted? parse lax)) := by
  induction seen with
  | nil => exact List.Sublist.refl _
  | cons file later ih =>
      cases accepted : accepted? parse strict file with
      | some extraction =>
          have still := accepted?_of_relaxes relaxes file extraction accepted
          rw [List.filterMap_cons_some accepted, List.filterMap_cons_some still]
          exact ih.cons_cons extraction
      | none =>
          rw [List.filterMap_cons_none accepted]
          refine ih.trans (List.Sublist.filterMap _ ?_)
          exact List.sublist_cons_self file later

end IndexRun

namespace FileSystem

/-- The bytes that are kept of the files of a walk are those of a text, whose lines are the records
of the chunks. -/
theorem exists_text_of_linesOf (parse : SyntaxParser) (config : IndexingConfig)
    (seen : List SourceFile) :
    ∃ text : String, Text.encode text = IndexRun.linesOf parse config seen ∧
      Text.lines text.toList =
        (IndexRun.chunksOf parse config seen).map fun chunk => chunk.toJson.render none := by
  refine ⟨String.ofList (Store.text (IndexRun.chunksOf parse config seen)), ?_, ?_⟩
  · rw [Text.encode_ofList, Store.utf8_text, ← Store.bytes, IndexRun.linesOf]
  · rw [String.toList_ofList, Store.lines_eq_map]

/-- Of two runs over one directory, the one with the policy that leaves out less indexes no fewer
files, and the lines that the other stores are a subsequence of its lines. -/
theorem index_relaxed (parse : SyntaxParser) (disk disk' : Stream) (strict lax : IndexingConfig)
    (entries : Listing) (files files' after after' : FileSystem) (root : PathName)
    (report report' : IndexReport) (location location' : Location)
    (first : Indexed parse disk strict entries files root report after location)
    (second : Indexed parse disk' lax entries files' root report' after' location')
    (relaxes : lax.Relaxes strict) :
    report.filesIndexed ≤ report'.filesIndexed ∧
      ∃ text text' : String, Stores after location (Text.encode text) ∧
        Stores after' location' (Text.encode text') ∧
        (Text.lines text.toList).Sublist (Text.lines text'.toList) := by
  obtain ⟨whole, accounts⟩ := first.accounts
  obtain ⟨whole', accounts'⟩ := second.accounts
  have walked := Tree.within_traversal relaxes.rules root _ whole whole'
  have accepted := ((walked.map (meetBelow (.directory entries))).filterMap
    (IndexRun.accepted? parse strict)).trans (IndexRun.filterMap_accepted?_of_relaxes relaxes _)
  constructor
  · rw [accounts.indexed, accounts'.indexed]
    exact accepted.length_le
  · obtain ⟨text, spells, lines⟩ := exists_text_of_linesOf parse strict
      (((treeOf root [] (.directory entries)).traversal (IndexRun.rules strict) root).1.map
        (meetBelow (.directory entries)))
    obtain ⟨text', spells', lines'⟩ := exists_text_of_linesOf parse lax
      (((treeOf root [] (.directory entries)).traversal (IndexRun.rules lax) root).1.map
        (meetBelow (.directory entries)))
    refine ⟨text, text', spells ▸ accounts.stored, spells' ▸ accounts'.stored, ?_⟩
    rw [lines, lines']
    exact (accepted.flatMap _).map _

/-- Without the pattern that excludes it, and with tolerance for its fault, one more file of the
directory is indexed. -/
theorem index_relaxed_mixedFiles :
    ∃ report report' after after', ∃ text text' : String,
      mixedFiles.index mixedTrees {} { outputPath := "out.jsonl", excludePatterns := ["open"] }
        "repo" = (.ok report, after) ∧
      mixedFiles.index mixedTrees {} { outputPath := "out.jsonl", allowPartialParse := true }
        "repo" = (.ok report', after') ∧
      report.filesIndexed = 1 ∧ report'.filesIndexed = 2 ∧
      Stores after ["out.jsonl"] (Text.encode text) ∧
      Stores after' ["out.jsonl"] (Text.encode text') ∧
      (Text.lines text.toList).Sublist (Text.lines text'.toList) := by
  obtain ⟨report, after, first⟩ := Indexed.exists_of_completes mixedTrees {}
    { outputPath := "out.jsonl", excludePatterns := ["open"] } _ mixedFiles _ "repo" ["repo"]
    ["out.jsonl"] rfl (by decide) rfl ⟨rfl, rfl, rfl, rfl⟩
  obtain ⟨report', after', second⟩ := Indexed.exists_of_completes mixedTrees {}
    { outputPath := "out.jsonl", allowPartialParse := true } _ mixedFiles _ "repo" ["repo"]
    ["out.jsonl"] rfl (by decide) rfl ⟨rfl, rfl, rfl, rfl⟩
  have one : report.filesIndexed = 1 := first.accounts.2.indexed.trans rfl
  have two : report'.filesIndexed = 2 := second.accounts.2.indexed.trans rfl
  obtain ⟨-, text, text', stored, stored', sub⟩ := index_relaxed mixedTrees {} {} _ _ _ mixedFiles
    mixedFiles after after' "repo" report report' _ _ first second
    ⟨⟨List.forall_mem_nil _, List.forall_mem_nil _⟩, Nat.le_refl _, fun _ => rfl⟩
  exact ⟨report, report', after, after', text, text', first.run, second.run, one, two, stored,
    stored', sub⟩

end FileSystem

end SourceIndex
