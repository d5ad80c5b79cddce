import SourceIndex.Proofs.Exclusion.Bases
import SourceIndex.Proofs.Store.Creation

set_option autoImplicit false

namespace SourceIndex

mutual

/-- Whether everything that lies in an entry has a name. -/
def Entry.named : Entry → Bool
  | .directory entries => Entry.allNamed entries
  | _ => true

def Entry.allNamed : List (PathName × Entry) → Bool
  | [] => true
  | (name, entry) :: later =>
    PathName.isName name && Entry.named entry && Entry.allNamed later

end

theorem Entry.isName_of_allNamed (entries : Listing) (named : allNamed entries = true)
    (name : PathName) (entry : Entry) (member : (name, entry) ∈ entries) :
    PathName.isName name = true := by
  induction entries with
  | nil => cases member
  | cons head later ih =>
      obtain ⟨other, held⟩ := head
      rw [allNamed, Bool.and_eq_true, Bool.and_eq_true] at named
      obtain ⟨⟨isName, -⟩, others⟩ := named
      rcases List.mem_cons.mp member with same | member
      · cases same
        exact isName
      · exact ih others member

def Found.under (base : PathName) (found : Found) : Found :=
  { found with path := base ++ found.path }

/-- The rules judge a directory alike below two bases: either its path has more than slashes and
backslashes, and is judged by that, or the bases are judged alike. -/
def Settled (base base' path : PathName) : Prop :=
  Exclusion.skipsDirectory base = Exclusion.skipsDirectory base' ∨
    ∃ byte ∈ path, byte ≠ PathName.slash ∧ byte ≠ 0x5C

theorem Settled.of_isName {base base' name : PathName} (named : PathName.isName name = true)
    (proper : ∃ byte ∈ name, byte ≠ 0x5C) : Settled base base' name := by
  obtain ⟨byte, inside, other⟩ := proper
  exact .inr ⟨byte, inside, fun same => PathName.not_mem_of_isName named (same ▸ inside), other⟩

theorem Settled.join {base base' path : PathName} (settled : Settled base base' path)
    (name : PathName) (relative : PathName.isAbsolute name = false) :
    Settled base base' (PathName.join path name) := by
  rcases settled with same | ⟨byte, inside, other⟩
  · exact .inl same
  · refine .inr ⟨byte, ?_, other⟩
    simp only [PathName.join, relative, Bool.false_eq_true, ↓reduceIte]
    split
    · exact List.mem_append_left _ inside
    · exact List.mem_append_left _ inside

theorem Exclusion.prunes_under (rules : Exclusion) {base base' path : PathName}
    (closed : PathName.Closed base) (closed' : PathName.Closed base')
    (settled : Settled base base' path) (some : PathName.segments path ≠ []) :
    rules.prunes (base ++ path) = rules.prunes (base' ++ path) := by
  have skipped : skipsDirectory (base ++ path) = skipsDirectory (base' ++ path) := by
    by_cases named : ∃ c ∈ PathName.normalized path, c ≠ '/'
    · rw [skipsDirectory, skipsDirectory, lastSegment_under closed path named,
        lastSegment_under closed' path named]
    · have bare : ∀ c ∈ PathName.normalized path, c = '/' := fun c inside =>
        Decidable.of_not_not fun other => named ⟨c, inside, other⟩
      rcases settled with same | ⟨byte, inside, slash, backslash⟩
      · rwa [skipsDirectory, skipsDirectory, ← lastSegment_of_bare closed path bare,
          ← lastSegment_of_bare closed' path bare] at same
      · exact absurd (exists_mem_normalized inside slash backslash) named
  rw [prunes, prunes, skipped, PathName.fileName?_under closed path some,
    PathName.fileName?_under closed' path some]

namespace Harvest

/-- If both walks end well, the same files are found below the bases. -/
def SameBelow (base base' : PathName) (first second : Harvest Found IndexingFailure) : Prop :=
  first.2 = none → second.2 = none →
  ∃ below : List Found, (∀ found ∈ below, PathName.segments found.path ≠ []) ∧
    first.1 = below.map (Found.under base) ∧ second.1 = below.map (Found.under base')

theorem SameBelow.nil (base base' : PathName) : SameBelow base base' ([], none) ([], none) :=
  fun _ _ => ⟨[], List.forall_mem_nil _, rfl, rfl⟩

theorem SameBelow.of_failure (base base' : PathName) (items : List Found) (cause : IndexingFailure)
    (second : Harvest Found IndexingFailure) : SameBelow base base' (items, some cause) second :=
  fun whole => nomatch whole

theorem SameBelow.followedBy {base base' : PathName}
    {first first' later later' : Harvest Found IndexingFailure}
    (firsts : SameBelow base base' first first') (laters : SameBelow base base' later later') :
    SameBelow base base' (first.followedBy later) (first'.followedBy later') := by
  intro whole whole'
  obtain ⟨items, _ | failure⟩ := first
  · obtain ⟨items', _ | failure⟩ := first'
    · obtain ⟨below, proper, rfl, rfl⟩ := firsts rfl rfl
      obtain ⟨below', proper', others, others'⟩ := laters whole whole'
      refine ⟨below ++ below', ?_, ?_, ?_⟩
      · exact List.forall_mem_append.mpr ⟨proper, proper'⟩
      · rw [List.map_append, ← others]
        rfl
      · rw [List.map_append, ← others']
        rfl
    · cases whole'
  · cases whole

end Harvest

namespace FileSystem

open Harvest (SameBelow)

variable (rules : Exclusion) (base base' : PathName)

theorem sameBelow_file (path : PathName) (place : Location)
    (some : PathName.segments path ≠ []) :
    SameBelow base base' (Tree.files rules (base ++ path) (.file place))
      (Tree.files rules (base' ++ path) (.file place)) := by
  simp only [Tree.files]
  exact fun _ _ => ⟨[⟨path, place⟩], List.forall_mem_singleton.mpr some, rfl, rfl⟩

/-- A directory that is left out gives nothing; any other gives what lies in it, if both walks end
well. -/
theorem sameBelow_directory (path : PathName) (place : Location) (entries : Listing)
    (pruned : rules.prunes (base ++ path) = rules.prunes (base' ++ path))
    (inside : SameBelow base base' (filesBelow rules (base ++ path) place entries)
      (filesBelow rules (base' ++ path) place entries)) :
    SameBelow base base' (filesOf rules (base ++ path) place (.directory entries))
      (filesOf rules (base' ++ path) place (.directory entries)) := by
  cases left : rules.prunes (base ++ path) with
  | true =>
      rw [filesOf_of_pruned rules _ place entries left,
        filesOf_of_pruned rules _ place entries (pruned ▸ left)]
      exact .nil base base'
  | false =>
      intro whole whole'
      have given := filesOf_of_whole rules _ place entries left whole
      have given' := filesOf_of_whole rules _ place entries (pruned ▸ left) whole'
      rw [given] at whole ⊢
      rw [given'] at whole' ⊢
      exact inside whole whole'

/-- A directory that cannot be opened is left out below both of the bases, or fails the walk. -/
theorem sameBelow_closedDirectory (path : PathName) (place : Location)
    (pruned : rules.prunes (base ++ path) = rules.prunes (base' ++ path)) :
    SameBelow base base' (filesOf rules (base ++ path) place .closedDirectory)
      (filesOf rules (base' ++ path) place .closedDirectory) := by
  simp only [filesOf, treeOf, Tree.files, pruned]
  split
  · exact .nil base base'
  · exact .of_failure base base' [] _ _

mutual

theorem sameBelow_filesOf (closed : PathName.Closed base) (closed' : PathName.Closed base')
    (path : PathName) (place : Location) (entry : Entry) (named : entry.named = true)
    (some : PathName.segments path ≠ [])
    (settled : entry.isDirectory = true → Settled base base' path) :
    SameBelow base base' (filesOf rules (base ++ path) place entry)
      (filesOf rules (base' ++ path) place entry) := by
  match entry with
  | .file content => exact sameBelow_file rules base base' path place some
  | .closedFile size => exact sameBelow_file rules base base' path place some
  | .link target =>
      simp only [filesOf, treeOf, Tree.files]
      exact .nil base base'
  | .device kind =>
      simp only [filesOf, treeOf, Tree.files]
      exact .nil base base'
  | .closedDirectory =>
      exact sameBelow_closedDirectory rules base base' path place
        (rules.prunes_under closed closed' (settled rfl) some)
  | .directory entries =>
      have judged := settled rfl
      have inside := sameBelow_filesBelow closed closed' (base ++ path) (base' ++ path) path place
        entries named
        (fun name relative => PathName.join_under closed path name relative)
        (fun name relative => PathName.join_under closed' path name relative)
        (fun name entry _ _ relative => judged.join name relative)
      exact sameBelow_directory rules base base' path place entries
        (rules.prunes_under closed closed' judged some) inside

theorem sameBelow_filesBelow (closed : PathName.Closed base) (closed' : PathName.Closed base')
    (root root' path : PathName) (place : Location) (entries : List (PathName × Entry))
    (named : Entry.allNamed entries = true)
    (joins : ∀ name, PathName.isAbsolute name = false →
      PathName.join root name = base ++ PathName.join path name)
    (joins' : ∀ name, PathName.isAbsolute name = false →
      PathName.join root' name = base' ++ PathName.join path name)
    (settled : ∀ name entry, (name, entry) ∈ entries → entry.isDirectory = true →
      PathName.isAbsolute name = false → Settled base base' (PathName.join path name)) :
    SameBelow base base' (filesBelow rules root place entries)
      (filesBelow rules root' place entries) := by
  match entries with
  | [] =>
      simp only [filesBelow, treesOf, Tree.filesIn]
      exact .nil base base'
  | (name, entry) :: later =>
      rw [Entry.allNamed, Bool.and_eq_true, Bool.and_eq_true] at named
      obtain ⟨⟨isName, deeper⟩, others⟩ := named
      have relative := PathName.relative_of_isName isName
      have segments := PathName.segments_join path name isName
      rw [filesBelow_cons, filesBelow_cons, joins name relative, joins' name relative]
      refine SameBelow.followedBy ?_ ?_
      · exact sameBelow_filesOf closed closed' (PathName.join path name) _ entry deeper
          (by simp [segments])
          fun directory => settled name entry List.mem_cons_self directory relative
      · exact sameBelow_filesBelow closed closed' root root' path place later others joins
          joins' fun other held member => settled other held (List.mem_cons_of_mem _ member)

end

theorem sameBelow_traversal (root root' : PathName) (given : root ≠ []) (given' : root' ≠ [])
    (entries : Listing) (named : Entry.allNamed entries = true)
    (settled : ∀ name entry, (name, entry) ∈ entries → entry.isDirectory = true →
      Settled (PathName.base root) (PathName.base root') name) :
    SameBelow (PathName.base root) (PathName.base root')
      ((treeOf root [] (.directory entries)).traversal rules root)
      ((treeOf root' [] (.directory entries)).traversal rules root') := by
  have top (name : PathName) (relative : PathName.isAbsolute name = false) :
      PathName.join [] name = name := by
    simp [PathName.join, relative]
  have inside := sameBelow_filesBelow rules (PathName.base root) (PathName.base root')
    (PathName.closed_base root given) (PathName.closed_base root' given') root root' [] [] entries
    named
    (fun name relative => by rw [top name relative, PathName.join_eq_base root name relative])
    (fun name relative => by rw [top name relative, PathName.join_eq_base root' name relative])
    (fun name entry member directory relative => by
      rw [top name relative]
      exact settled name entry member directory)
  intro whole whole'
  have walked := traversal_of_whole rules [] root entries whole
  have walked' := traversal_of_whole rules [] root' entries whole'
  rw [walked] at whole ⊢
  rw [walked'] at whole' ⊢
  exact inside whole whole'

end FileSystem

end SourceIndex
