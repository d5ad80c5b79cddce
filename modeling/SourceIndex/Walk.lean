import SourceIndex.Exclusion
import SourceIndex.Failure
import SourceIndex.FileTree

set_option autoImplicit false

namespace SourceIndex

/-- A tree as the walk meets it, directories with their entries in the order of the listing. -/
inductive Tree where
  /-- A regular file, with the names on the way to it from the root of the tree. -/
  | file (place : Location)
  | directory (entries : List (PathName × Tree))
  /-- A directory that cannot be opened. -/
  | closed (reason : String)
  /-- A link, or anything else that is neither a file nor a directory. -/
  | other
deriving Inhabited

/-- A file that the walk yields. What it holds is not looked at. -/
structure Found where
  path : PathName
  place : Location
deriving DecidableEq, Repr, Inhabited

namespace Tree

mutual

def weight : Tree → Nat
  | file _ => 1
  | directory entries => weights entries + 2
  | closed _ => 1
  | other => 1

def weights : List (PathName × Tree) → Nat
  | [] => 0
  | (_, tree) :: later => tree.weight + weights later

end

end Tree

/-- A directory that is being read: its path, and the entries not yet taken. -/
structure OpenDirectory where
  path : PathName
  entries : List (PathName × Tree)

/-- The walk between two files: the root if it is not yet opened, and the directories that are
open, the innermost first. -/
structure Walk where
  pending : Option (PathName × Tree)
  stack : List OpenDirectory
  rules : Exclusion

namespace Walk

def ofTree (rules : Exclusion) (root : PathName) (tree : Tree) : Walk :=
  ⟨some (root, tree), [], rules⟩

def stackWeight : List OpenDirectory → Nat
  | [] => 0
  | directory :: later => Tree.weights directory.entries + 1 + stackWeight later

/-- What a pull gives: a file and the walk after it, a failure, which ends the walk, or its end. -/
inductive Step where
  | file (found : Found) (later : List OpenDirectory)
  | failed (cause : IndexingFailure)
  | finished

/-- Goes on to the next file. A directory is entered unless the rules leave it out. -/
def nextFile (rules : Exclusion) (stack : List OpenDirectory) : Step :=
  match stack with
  | [] => .finished
  | ⟨_, []⟩ :: outer => nextFile rules outer
  | ⟨path, (name, tree) :: entries⟩ :: outer =>
    let inner := PathName.join path name
    match tree with
    | .file place => .file ⟨inner, place⟩ (⟨path, entries⟩ :: outer)
    | .other => nextFile rules (⟨path, entries⟩ :: outer)
    | .directory below =>
      if rules.prunes inner then nextFile rules (⟨path, entries⟩ :: outer)
      else nextFile rules (⟨inner, below⟩ :: ⟨path, entries⟩ :: outer)
    | .closed reason =>
      if rules.prunes inner then nextFile rules (⟨path, entries⟩ :: outer)
      else .failed (.walkFailed (PathName.display inner) reason)
termination_by stackWeight stack
decreasing_by all_goals simp only [stackWeight, Tree.weights, Tree.weight]; omega

theorem stackWeight_nextFile {rules : Exclusion} {stack later : List OpenDirectory}
    {found : Found} (h : nextFile rules stack = .file found later) :
    stackWeight later < stackWeight stack := by
  fun_induction nextFile rules stack with
  | case1 => contradiction
  | case2 _ outer ih =>
    have := ih h
    simp only [stackWeight, Tree.weights]
    omega
  | case3 =>
    cases h
    simp only [stackWeight, Tree.weights, Tree.weight]
    omega
  | case4 _ _ _ _ ih =>
    have := ih h
    simp only [stackWeight, Tree.weights, Tree.weight] at this ⊢
    omega
  | case5 _ _ _ _ _ _ _ ih =>
    have := ih h
    simp only [stackWeight, Tree.weights, Tree.weight] at this ⊢
    omega
  | case6 _ _ _ _ _ _ _ ih =>
    have := ih h
    simp only [stackWeight, Tree.weights, Tree.weight] at this ⊢
    omega
  | case7 _ _ _ _ _ _ _ ih =>
    have := ih h
    simp only [stackWeight, Tree.weights, Tree.weight] at this ⊢
    omega
  | case8 => cases h

/-- Opens the root if that is still to be done. The rules do not judge it. -/
def opened (walk : Walk) : Except IndexingFailure (List OpenDirectory) :=
  match walk.pending with
  | none => .ok walk.stack
  | some (root, .directory entries) => .ok (⟨root, entries⟩ :: walk.stack)
  | some (root, .closed reason) => .error (.walkFailed (PathName.display root) reason)
  | some (root, _) => .error (.walkFailed (PathName.display root) PathFault.notADirectory.message)

/-- The items of a walk with these directories open, each given to `visit`, which may end the walk
with a failure of its own; at last what the visits made. -/
def visitFrom {σ ε : Type} (rules : Exclusion) (ofWalk : IndexingFailure → ε)
    (visit : σ → Found → σ × Option ε) (state : σ) (stack : List OpenDirectory) :
    σ × Option ε :=
  match _h : nextFile rules stack with
  | .finished => (state, none)
  | .failed cause => (state, some (ofWalk cause))
  | .file found later =>
    match visit state found with
    | (state, some failure) => (state, some failure)
    | (state, none) => visitFrom rules ofWalk visit state later
termination_by stackWeight stack
decreasing_by exact stackWeight_nextFile _h

def visitAll {σ ε : Type} (ofWalk : IndexingFailure → ε) (visit : σ → Found → σ × Option ε)
    (state : σ) (walk : Walk) : σ × Option ε :=
  match walk.opened with
  | .ok stack => visitFrom walk.rules ofWalk visit state stack
  | .error cause => (state, some (ofWalk cause))

/-- The first `count` items of a walk: the paths of the files, and the failure if it is one of
them. -/
def takeFrom (rules : Exclusion) : Nat → List OpenDirectory → List PathName →
    List PathName × Option IndexingFailure
  | 0, _, paths => (paths.reverse, none)
  | count + 1, stack, paths =>
    match nextFile rules stack with
    | .finished => (paths.reverse, none)
    | .failed cause => (paths.reverse, some cause)
    | .file found later => takeFrom rules count later (found.path :: paths)

def take (walk : Walk) (count : Nat) : List PathName × Option IndexingFailure :=
  if count == 0 then ([], none)
  else match walk.opened with
    | .ok stack => takeFrom walk.rules count stack []
    | .error cause => ([], some cause)

def paths (walk : Walk) : List PathName × Option IndexingFailure :=
  let (paths, failure) := walk.visitAll id (fun paths found => (found.path :: paths, none)) []
  (paths.reverse, failure)

end Walk

namespace Tree

mutual

/-- The files of an entry in the plain recursive order, up to the first failure. -/
def files (rules : Exclusion) (path : PathName) : Tree → List Found × Option IndexingFailure
  | file place => ([⟨path, place⟩], none)
  | other => ([], none)
  | closed reason =>
    if rules.prunes path then ([], none)
    else ([], some (.walkFailed (PathName.display path) reason))
  | directory entries =>
    if rules.prunes path then ([], none) else filesIn rules path entries

/-- The files of the entries of a directory, up to the first failure. -/
def filesIn (rules : Exclusion) (path : PathName) :
    List (PathName × Tree) → List Found × Option IndexingFailure
  | [] => ([], none)
  | (name, tree) :: later =>
    match files rules (PathName.join path name) tree with
    | (found, some failure) => (found, some failure)
    | (found, none) =>
      let (others, failure) := filesIn rules path later
      (found ++ others, failure)

end

end Tree

namespace FileSystem

mutual

/-- The tree below an entry as it is met by its path; what lies behind too long a path cannot be
opened. `place` is the way to the entry from the root of the tree. -/
def treeOf (path : PathName) (place : Location) : Entry → Tree
  | .file _ => .file place
  | .closedFile _ => .file place
  | .directory entries =>
    if fits path then .directory (treesOf path place entries)
    else .closed PathFault.nameTooLong.message
  | .closedDirectory =>
    .closed (if fits path then PathFault.denied.message else PathFault.nameTooLong.message)
  | .link _ => .other
  | .device _ => .other

def treesOf (path : PathName) (place : Location) :
    List (PathName × Entry) → List (PathName × Tree)
  | [] => []
  | (name, entry) :: later =>
    (name, treeOf (PathName.join path name) (place ++ [name]) entry) :: treesOf path place later

end

/-- The tree that a path leads to. A root may be reached through a link. -/
def treeAt (files : FileSystem) (path : PathName) : Tree :=
  match files.find path with
  | .ok (_, entry) => treeOf path [] entry
  | .error fault => .closed fault.message

end FileSystem

end SourceIndex
