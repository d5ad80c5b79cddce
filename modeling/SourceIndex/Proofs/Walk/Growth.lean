import SourceIndex.Proofs.FileTree.Placing
import SourceIndex.Proofs.Walk.Traversal

set_option autoImplicit false

namespace SourceIndex

namespace Harvest

variable {α ε : Type}

/-- The second harvest is the first one, unless it fails. -/
def AgreesIfWhole (before after : Harvest α ε) : Prop := after.2 = none → before = after

/-- The second harvest is the first one with more items at one place, unless it fails. -/
def Gains (more : List α) (before after : Harvest α ε) : Prop :=
  after.2 = none → before.2 = none ∧
    ∃ front back, before.1 = front ++ back ∧ after.1 = front ++ more ++ back

theorem AgreesIfWhole.refl (harvest : Harvest α ε) : AgreesIfWhole harvest harvest := fun _ => rfl

theorem AgreesIfWhole.trans {first second third : Harvest α ε}
    (earlier : AgreesIfWhole first second) (later : AgreesIfWhole second third) :
    AgreesIfWhole first third := by
  intro whole
  have same := later whole
  rw [← same] at whole
  exact (earlier whole).trans same

theorem gains_nil_iff (before after : Harvest α ε) :
    Gains [] before after ↔ AgreesIfWhole before after := by
  constructor
  · intro gains whole
    obtain ⟨none, front, back, items, items'⟩ := gains whole
    rw [List.append_nil] at items'
    exact Prod.ext (items.trans items'.symm) (none.trans whole.symm)
  · intro agrees whole
    rw [agrees whole]
    exact ⟨whole, after.1, [], (List.append_nil _).symm, by simp only [List.append_nil]⟩

theorem Gains.of_agrees {more : List α} {first second third : Harvest α ε}
    (earlier : AgreesIfWhole first second) (later : Gains more second third) :
    Gains more first third := by
  intro whole
  obtain ⟨none, items⟩ := later whole
  rw [earlier none]
  exact ⟨none, items⟩

theorem Gains.followedBy {more : List α} {first first' : Harvest α ε}
    (gains : Gains more first first') (later : Harvest α ε) :
    Gains more (first.followedBy later) (first'.followedBy later) := by
  intro whole
  obtain ⟨items', _ | failure⟩ := first'
  · obtain ⟨none, front, back, items, gained⟩ := gains rfl
    have given : first = (front ++ back, Option.none) := Prod.ext items none
    have given' : items' = front ++ more ++ back := gained
    refine ⟨?_, front, back ++ later.1, ?_, ?_⟩
    · rw [given]
      exact whole
    · simp only [given, Harvest.followedBy, List.append_assoc]
    · simp only [given', Harvest.followedBy, List.append_assoc]
  · cases whole

theorem Gains.after {more : List α} {later later' : Harvest α ε} (gains : Gains more later later')
    (first : Harvest α ε) : Gains more (first.followedBy later) (first.followedBy later') := by
  intro whole
  obtain ⟨items, _ | failure⟩ := first
  · obtain ⟨none, front, back, others, others'⟩ := gains whole
    refine ⟨none, items ++ front, back, ?_, ?_⟩
    · simp only [Harvest.followedBy, others, List.append_assoc]
    · simp only [Harvest.followedBy, others', List.append_assoc]
  · cases whole

end Harvest

namespace FileSystem

open Harvest (AgreesIfWhole Gains)

/-- The files of an entry, as they are met by its path. -/
def filesOf (rules : Exclusion) (path : PathName) (place : Location) (entry : Entry) :
    Harvest Found IndexingFailure :=
  Tree.files rules path (treeOf path place entry)

def filesBelow (rules : Exclusion) (path : PathName) (place : Location) (entries : Listing) :
    Harvest Found IndexingFailure :=
  Tree.filesIn rules path (treesOf path place entries)

variable (rules : Exclusion) (path : PathName) (place : Location)

theorem filesBelow_nil : filesBelow rules path place [] = ([], none) := by
  rw [filesBelow, treesOf, Tree.filesIn]

theorem filesBelow_cons (name : PathName) (entry : Entry) (later : Listing) :
    filesBelow rules path place ((name, entry) :: later) =
      Harvest.followedBy (filesOf rules (PathName.join path name) (place ++ [name]) entry)
        (filesBelow rules path place later) := by
  rw [filesBelow, treesOf, Tree.filesIn_cons]
  rfl

theorem filesOf_of_pruned (entries : Listing) (pruned : rules.prunes path = true) :
    filesOf rules path place (.directory entries) = ([], none) := by
  simp only [filesOf, treeOf]
  split <;> rw [Tree.files, if_pos pruned]

theorem filesOf_of_whole (entries : Listing) (kept : rules.prunes path = false)
    (whole : (filesOf rules path place (.directory entries)).2 = none) :
    filesOf rules path place (.directory entries) = filesBelow rules path place entries := by
  simp only [filesOf, treeOf] at whole ⊢
  split
  · rw [Tree.files, kept]
    rfl
  · rename_i long
    rw [if_neg long, Tree.files, kept] at whole
    cases whole

theorem filesOf_directory_cases (entries : Listing) :
    (filesOf rules path place (.directory entries)).1 = [] ∨
      filesOf rules path place (.directory entries) = filesBelow rules path place entries := by
  simp only [filesOf, treeOf]
  split
  · rw [Tree.files]
    split
    · exact .inl rfl
    · exact .inr rfl
  · rw [Tree.files]
    split <;> exact .inl rfl

theorem traversal_of_whole (root : PathName) (entries : Listing)
    (whole : ((treeOf root place (.directory entries)).traversal rules root).2 = none) :
    (treeOf root place (.directory entries)).traversal rules root =
      filesBelow rules root place entries := by
  simp only [treeOf] at whole ⊢
  split
  · rfl
  · rename_i long
    rw [if_neg long] at whole
    cases whole

theorem gains_put (name : PathName) (new : Entry) (entries : Listing) (more : List Found)
    (replaced : ∀ inner, Listing.get? entries name = some inner →
      Gains more (filesOf rules (PathName.join path name) (place ++ [name]) inner)
        (filesOf rules (PathName.join path name) (place ++ [name]) new))
    (added : Listing.get? entries name = none →
      Gains more ([], none) (filesOf rules (PathName.join path name) (place ++ [name]) new)) :
    Gains more (filesBelow rules path place entries)
      (filesBelow rules path place (Listing.put name new entries)) := by
  induction entries with
  | nil =>
      rw [Listing.put, filesBelow_cons, filesBelow_nil, Harvest.followedBy_nil]
      exact added rfl
  | cons head later ih =>
      obtain ⟨other, held⟩ := head
      simp only [Listing.get?_cons] at replaced added
      rw [Listing.put, filesBelow_cons]
      by_cases here : other == name
      · have same := eq_of_beq here
        subst same
        rw [if_pos here, filesBelow_cons]
        exact (replaced held (if_pos here)).followedBy _
      · rw [if_neg here, filesBelow_cons]
        simp only [here, Bool.false_eq_true, ↓reduceIte] at replaced added
        exact (ih replaced added).after _

theorem gains_directory (entries others : Listing) (more : List Found)
    (inside : Gains more (filesBelow rules path place entries)
      (filesBelow rules path place others)) :
    Gains (if rules.prunes path then [] else more)
      (filesOf rules path place (.directory entries))
      (filesOf rules path place (.directory others)) := by
  cases pruned : rules.prunes path with
  | true =>
      rw [filesOf_of_pruned rules path place entries pruned,
        filesOf_of_pruned rules path place others pruned]
      exact (Harvest.gains_nil_iff _ _).mpr (.refl _)
  | false =>
      simp only [filesOf, treeOf, Bool.false_eq_true, ↓reduceIte]
      split
      · simp only [Tree.files, pruned, Bool.false_eq_true, ↓reduceIte]
        exact inside
      · intro whole
        rw [Tree.files, pruned] at whole
        cases whole

/-- The path by which a walk from a directory comes to a place below it, unless it leaves out a
directory on the way. -/
def wayTo? (rules : Exclusion) (path : PathName) : Location → Option PathName
  | [] => some path
  | name :: names =>
    if !names.isEmpty && rules.prunes (PathName.join path name) then none
    else wayTo? rules (PathName.join path name) names

/-- What a walk gives of an entry that is put at a place below the directory at `place`. -/
def arrivals (new : Entry) (path : PathName) (place names : Location) : List Found :=
  match wayTo? rules path names with
  | some inner => (filesOf rules inner (place ++ names) new).1
  | none => []

theorem arrivals_cons_cons (new : Entry) (name next : PathName) (names : Location) :
    arrivals rules new path place (name :: next :: names) =
      if rules.prunes (PathName.join path name) then []
      else arrivals rules new (PathName.join path name) (place ++ [name]) (next :: names) := by
  rw [arrivals, wayTo?, arrivals, List.append_assoc, List.singleton_append]
  cases rules.prunes (PathName.join path name) <;> rfl

/-- The entries of a directory gain what is put at an empty place in one of the directories below
it. -/
theorem gains_placed (new : Entry) (entries others below : Listing) (name : PathName)
    (names : Location) (fresh : entryFrom (.directory entries) (name :: names) = none)
    (above : entryFrom (.directory entries) (name :: names).dropLast = some (.directory below))
    (same : placed new (.directory entries) (name :: names) = .directory others) :
    Gains (arrivals rules new path place (name :: names)) (filesBelow rules path place entries)
      (filesBelow rules path place others) := by
  -- The way leads through directories that are there; only its last name is new.
  induction names generalizing path place entries others name with
  | nil =>
      cases found : Listing.get? entries name with
      | some inner => simp only [entryFrom, found, reduceCtorEq] at fresh
      | none =>
          rw [placed_fresh new entries name [] found] at same
          cases same
          refine gains_put rules path place name new entries _ ?_ ?_
          · intro inner present
            rw [found] at present
            cases present
          · exact fun _ whole => ⟨rfl, [], [], rfl, (List.append_nil _).symm⟩
  | cons next names ih =>
      rw [List.dropLast_cons_cons] at above
      obtain ⟨_, inner, same', found, deeper⟩ := entryFrom_cons _ _ name _ above
      cases same'
      have directory : ∃ inside, inner = .directory inside := by
        cases rest : (next :: names).dropLast with
        | nil =>
            rw [rest, entryFrom, Option.some.injEq] at deeper
            exact ⟨below, deeper⟩
        | cons first later =>
            rw [rest] at deeper
            obtain ⟨inside, _, directory, -⟩ := entryFrom_cons inner _ first later deeper
            exact ⟨inside, directory⟩
      obtain ⟨inside, rfl⟩ := directory
      simp only [entryFrom, found] at fresh
      obtain ⟨later, placedBelow⟩ := placed_directory new inside next names
      rw [placed_found new _ entries name (next :: names) found, placedBelow] at same
      cases same
      rw [arrivals_cons_cons]
      refine gains_put rules path place name _ entries _ ?_ ?_
      · intro other present
        rw [found, Option.some.injEq] at present
        subst present
        exact gains_directory rules _ _ inside later _
          (ih (PathName.join path name) (place ++ [name]) inside later next fresh deeper
            placedBelow)
      · intro absent
        rw [found] at absent
        cases absent

theorem arrivals_empty (names : Location) : arrivals rules .empty path place names = [] := by
  rw [arrivals]
  split
  · rename_i inner _
    rcases filesOf_directory_cases rules inner (place ++ names) [] with none | inside
    · exact none
    · rw [Entry.empty, inside, filesBelow_nil]
  · rfl

/-- A new file is met by its path, unless a directory on the way is left out. -/
theorem arrivals_file (content : List UInt8) (names : Location) :
    arrivals rules (.file content) path place names =
      ((wayTo? rules path names).map fun inner => (⟨inner, place ++ names⟩ : Found)).toList := by
  rw [arrivals]
  cases wayTo? rules path names <;> rfl

end FileSystem

end SourceIndex
