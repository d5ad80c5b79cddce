import SourceIndex.Walk

set_option autoImplicit false

namespace SourceIndex

/-- What a traversal gives: its items in order, and the failure that ends it. -/
abbrev Harvest (α ε : Type) := List α × Option ε

namespace Harvest

variable {α β ε δ : Type}

/-- One harvest after another. A failure of the first leaves the other unread. -/
def followedBy (first later : Harvest α ε) : Harvest α ε :=
  match first with
  | (items, some failure) => (items, some failure)
  | (items, none) => (items ++ later.1, later.2)

def map (onItem : α → β) (onFailure : ε → δ) (harvest : Harvest α ε) : Harvest β δ :=
  (harvest.1.map onItem, harvest.2.map onFailure)

@[simp] theorem nil_followedBy (later : Harvest α ε) : followedBy ([], none) later = later := rfl

@[simp] theorem failure_followedBy (items : List α) (failure : ε) (later : Harvest α ε) :
    followedBy (items, some failure) later = (items, some failure) := rfl

@[simp] theorem cons_followedBy (item : α) (later : Harvest α ε) :
    followedBy ([item], none) later = (item :: later.1, later.2) := rfl

@[simp] theorem followedBy_nil (first : Harvest α ε) : followedBy first ([], none) = first := by
  obtain ⟨items, _ | failure⟩ := first
  · simp only [followedBy, List.append_nil]
  · rfl

theorem followedBy_assoc (first second third : Harvest α ε) :
    followedBy (followedBy first second) third =
      followedBy first (followedBy second third) := by
  obtain ⟨items, _ | failure⟩ := first
  · obtain ⟨others, _ | failure⟩ := second
    · simp only [followedBy, List.append_assoc]
    · rfl
  · rfl

theorem map_followedBy (onItem : α → β) (onFailure : ε → δ) (first later : Harvest α ε) :
    (first.followedBy later).map onItem onFailure =
      (first.map onItem onFailure).followedBy (later.map onItem onFailure) := by
  obtain ⟨items, _ | failure⟩ := first
  · simp only [followedBy, map, List.map_append, Option.map_none]
  · rfl

theorem failure_followedBy_eq_some (first later : Harvest α ε) (failure : ε) :
    (first.followedBy later).2 = some failure ↔
      first.2 = some failure ∨ (first.2 = none ∧ later.2 = some failure) := by
  obtain ⟨items, _ | cause⟩ := first <;> simp [followedBy]

end Harvest

/-- The paths of the first items of a traversal, and the failure if it is one of them. -/
def Harvest.take (harvest : Harvest Found IndexingFailure) (count : Nat) :
    List PathName × Option IndexingFailure :=
  ((harvest.1.map (·.path)).take count,
    if harvest.1.length < count then harvest.2 else none)

namespace Tree

/-- The files below a root in the plain recursive order. The rules do not judge the root. -/
def traversal (rules : Exclusion) (root : PathName) : Tree → Harvest Found IndexingFailure
  | directory entries => filesIn rules root entries
  | closed reason => ([], some (.walkFailed (PathName.display root) reason))
  | _ => ([], some (.walkFailed (PathName.display root) PathFault.notADirectory.message))

theorem filesIn_cons (rules : Exclusion) (path name : PathName) (tree : Tree)
    (later : List (PathName × Tree)) :
    filesIn rules path ((name, tree) :: later) =
      Harvest.followedBy (files rules (PathName.join path name) tree)
        (filesIn rules path later) := by
  rw [filesIn]
  cases files rules (PathName.join path name) tree with
  | mk found failure => cases failure <;> rfl

end Tree

namespace Walk

/-- What the open directories still hold, the innermost first. -/
def harvest (rules : Exclusion) : List OpenDirectory → Harvest Found IndexingFailure
  | [] => ([], none)
  | ⟨path, entries⟩ :: outer =>
      Harvest.followedBy (Tree.filesIn rules path entries) (harvest rules outer)

/-- What a pull gives, and all that is left after it. -/
def Step.harvest (rules : Exclusion) : Step → Harvest Found IndexingFailure
  | .finished => ([], none)
  | .failed cause => ([], some cause)
  | .file found later => Harvest.followedBy ([found], none) (Walk.harvest rules later)

theorem harvest_cons (rules : Exclusion) (path name : PathName) (tree : Tree)
    (entries : List (PathName × Tree)) (outer : List OpenDirectory) :
    harvest rules (⟨path, (name, tree) :: entries⟩ :: outer) =
      Harvest.followedBy (Tree.files rules (PathName.join path name) tree)
        (harvest rules (⟨path, entries⟩ :: outer)) := by
  simp only [harvest, Tree.filesIn_cons, Harvest.followedBy_assoc]

/-- The invariant of the stack: a pull neither loses nor reorders what the directories hold. -/
theorem harvest_nextFile (rules : Exclusion) (stack : List OpenDirectory) :
    (nextFile rules stack).harvest rules = harvest rules stack := by
  fun_induction nextFile rules stack with
  | case1 => rfl
  | case2 path outer ih =>
      rw [ih]
      simp only [harvest, Tree.filesIn, Harvest.nil_followedBy]
  | case3 path name entries outer inner reading =>
      rw [harvest_cons, Tree.files]
      rfl
  | case4 path name entries outer ih =>
      rw [ih, harvest_cons, Tree.files, Harvest.nil_followedBy]
  | case5 path name entries outer inner below pruned ih =>
      rw [ih, harvest_cons, Tree.files, if_pos pruned, Harvest.nil_followedBy]
  | case6 path name entries outer inner below kept ih =>
      rw [ih, harvest_cons, Tree.files, if_neg kept]
      rfl
  | case7 path name entries outer inner reason pruned ih =>
      rw [ih, harvest_cons, Tree.files, if_pos pruned, Harvest.nil_followedBy]
  | case8 path name entries outer inner reason kept =>
      rw [harvest_cons, Tree.files, if_neg kept]
      rfl

theorem takeFrom_eq (rules : Exclusion) (count : Nat) (stack : List OpenDirectory)
    (paths : List PathName) :
    takeFrom rules count stack paths =
      (paths.reverse ++ ((harvest rules stack).take count).1,
        ((harvest rules stack).take count).2) := by
  induction count generalizing stack paths with
  | zero => simp [takeFrom, Harvest.take]
  | succ count ih =>
      rw [takeFrom, ← harvest_nextFile rules stack]
      cases nextFile rules stack with
      | finished => simp [Step.harvest, Harvest.take]
      | failed cause => simp [Step.harvest, Harvest.take]
      | file found later => simp [ih, Step.harvest, Harvest.take]

theorem take_ofTree (rules : Exclusion) (root : PathName) (tree : Tree) (count : Nat) :
    (ofTree rules root tree).take count = (tree.traversal rules root).take count := by
  cases count with
  | zero => simp [Walk.take, Harvest.take]
  | succ count =>
      simp only [Walk.take, ofTree, opened, Nat.add_eq_zero_iff, beq_iff_eq, Nat.one_ne_zero,
        and_false, ↓reduceIte]
      cases tree with
      | directory entries => simp [takeFrom_eq, harvest, Tree.traversal]
      | file reading => simp [Tree.traversal, Harvest.take]
      | closed reason => simp [Tree.traversal, Harvest.take]
      | other => simp [Tree.traversal, Harvest.take]

/-- Gives each item to `visit` in turn, until one of the visits fails. -/
def visitEach {α σ ε : Type} (visit : σ → α → σ × Option ε) : σ → List α → σ × Option ε
  | state, [] => (state, none)
  | state, item :: later =>
      match visit state item with
      | (state, some failure) => (state, some failure)
      | (state, none) => visitEach visit state later

/-- Visits that fail nowhere come to the state that they lead to one by one. -/
theorem foldl_of_visitEach {α σ ε : Type} (visit : σ → α → σ × Option ε) (state last : σ)
    (items : List α) (visited : visitEach visit state items = (last, none)) :
    items.foldl (fun state item => (visit state item).1) state = last := by
  induction items generalizing state with
  | nil => exact (Prod.mk.inj visited).1
  | cons item later ih =>
      rw [visitEach] at visited
      split at visited
      · cases visited
      · rename_i next step
        rw [List.foldl_cons, step]
        exact ih next visited

/-- Visits all that a traversal gives; its own failure comes last. -/
def visitHarvest {σ ε : Type} (ofWalk : IndexingFailure → ε) (visit : σ → Found → σ × Option ε)
    (state : σ) (harvest : Harvest Found IndexingFailure) : σ × Option ε :=
  match visitEach visit state harvest.1 with
  | (state, some failure) => (state, some failure)
  | (state, none) => (state, harvest.2.map ofWalk)

theorem visitFrom_eq {σ ε : Type} (rules : Exclusion) (ofWalk : IndexingFailure → ε)
    (visit : σ → Found → σ × Option ε) (state : σ) (stack : List OpenDirectory) :
    visitFrom rules ofWalk visit state stack =
      visitHarvest ofWalk visit state (harvest rules stack) := by
  fun_induction visitFrom rules ofWalk visit state stack with
  | case1 state stack ended => rw [← harvest_nextFile, ended]; rfl
  | case2 state stack cause failed => rw [← harvest_nextFile, failed]; rfl
  | case3 state stack found later pulled after failure visited =>
      rw [← harvest_nextFile, pulled]
      simp only [Step.harvest, Harvest.cons_followedBy, visitHarvest, visitEach, visited]
  | case4 state stack found later pulled after visited ih =>
      rw [← harvest_nextFile, pulled, ih]
      simp only [Step.harvest, Harvest.cons_followedBy, visitHarvest, visitEach, visited]

theorem visitAll_ofTree {σ ε : Type} (rules : Exclusion) (ofWalk : IndexingFailure → ε)
    (visit : σ → Found → σ × Option ε) (state : σ) (root : PathName) (tree : Tree) :
    (ofTree rules root tree).visitAll ofWalk visit state =
      visitHarvest ofWalk visit state (tree.traversal rules root) := by
  cases tree with
  | directory entries =>
      simp only [visitAll, ofTree, opened, visitFrom_eq, harvest, Harvest.followedBy_nil,
        Tree.traversal]
  | file reading => rfl
  | closed reason => rfl
  | other => rfl

end Walk

end SourceIndex
