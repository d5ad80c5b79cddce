import SourceIndex.Proofs.Store.Creation

set_option autoImplicit false

namespace SourceIndex

namespace Harvest

variable {α ε : Type}

/-- One harvest after another has the items of the first, and then those of the other or none. -/
theorem items_followedBy (first later : Harvest α ε) :
    (first.followedBy later).1 = first.1 ∨ (first.followedBy later).1 = first.1 ++ later.1 := by
  obtain ⟨items, _ | failure⟩ := first
  · exact .inr rfl
  · exact .inl rfl

theorem mem_followedBy {first later : Harvest α ε} {item : α}
    (member : item ∈ (first.followedBy later).1) : item ∈ first.1 ∨ item ∈ later.1 := by
  rcases items_followedBy first later with same | same
  · exact .inl (same ▸ member)
  · exact List.mem_append.mp (same ▸ member)

theorem pairwise_followedBy {R : α → α → Prop} {first later : Harvest α ε}
    (firsts : first.1.Pairwise R) (laters : later.1.Pairwise R)
    (across : ∀ item ∈ first.1, ∀ other ∈ later.1, R item other) :
    (first.followedBy later).1.Pairwise R := by
  rcases items_followedBy first later with same | same
  · exact same ▸ firsts
  · exact same ▸ List.pairwise_append.mpr ⟨firsts, laters, across⟩

end Harvest

namespace FileSystem

open Harvest (mem_followedBy pairwise_followedBy)

variable (rules : Exclusion)

mutual

theorem segments_of_mem_filesOf (path : PathName) (place : Location) (entry : Entry)
    (named : entry.wellNamed = true) (found : Found)
    (member : found ∈ (filesOf rules path place entry).1) :
    PathName.segments path <+: PathName.segments found.path := by
  match entry with
  | .file content =>
      simp only [filesOf, treeOf, Tree.files, List.mem_singleton] at member
      exact member ▸ List.prefix_refl _
  | .closedFile size =>
      simp only [filesOf, treeOf, Tree.files, List.mem_singleton] at member
      exact member ▸ List.prefix_refl _
  | .link target => simp only [filesOf, treeOf, Tree.files, List.not_mem_nil] at member
  | .device kind => simp only [filesOf, treeOf, Tree.files, List.not_mem_nil] at member
  | .closedDirectory =>
      simp only [filesOf, treeOf, Tree.files] at member
      split at member <;> cases member
  | .directory entries =>
      rcases filesOf_directory_cases rules path place entries with none | inside
      · rw [none] at member
        cases member
      · rw [inside] at member
        obtain ⟨name, -, below⟩ := segments_of_mem_filesBelow path place entries named found member
        exact (List.prefix_append _ _).trans below

/-- What is found in a directory has the segments of its path, and the name of an entry. -/
theorem segments_of_mem_filesBelow (path : PathName) (place : Location)
    (entries : List (PathName × Entry)) (named : Entry.allWellNamed entries = true) (found : Found)
    (member : found ∈ (filesBelow rules path place entries).1) :
    ∃ name ∈ Listing.names entries,
      PathName.segments path ++ [name] <+: PathName.segments found.path := by
  match entries with
  | [] =>
      rw [filesBelow_nil] at member
      cases member
  | (name, entry) :: later =>
      simp only [Entry.allWellNamed, Bool.and_eq_true] at named
      obtain ⟨⟨⟨isName, -⟩, deeper⟩, others⟩ := named
      rw [filesBelow_cons] at member
      rcases mem_followedBy member with first | rest
      · refine ⟨name, List.mem_cons_self, ?_⟩
        rw [← PathName.segments_join path name isName]
        exact segments_of_mem_filesOf (PathName.join path name) _ entry deeper found first
      · obtain ⟨other, among, below⟩ :=
          segments_of_mem_filesBelow path place later others found rest
        exact ⟨other, List.mem_cons_of_mem name among, below⟩

end

/-- Files that lie in different entries of a directory have different paths. -/
theorem path_ne_of_segments (above : List PathName) (name other : PathName) (first second : Found)
    (apart : name ≠ other) (below : above ++ [name] <+: PathName.segments first.path)
    (below' : above ++ [other] <+: PathName.segments second.path) : first.path ≠ second.path := by
  intro same
  rw [same] at below
  have equal := List.prefix_of_prefix_length_le below below' (by simp)
  have whole := equal.eq_of_length (by simp)
  exact apart (List.cons.inj (List.append_cancel_left whole)).1

mutual

theorem distinct_filesOf (path : PathName) (place : Location) (entry : Entry)
    (named : entry.wellNamed = true) :
    (filesOf rules path place entry).1.Pairwise fun first second => first.path ≠ second.path := by
  match entry with
  | .file content =>
      simp only [filesOf, treeOf, Tree.files]
      exact List.pairwise_singleton _ _
  | .closedFile size =>
      simp only [filesOf, treeOf, Tree.files]
      exact List.pairwise_singleton _ _
  | .link target =>
      simp only [filesOf, treeOf, Tree.files]
      exact .nil
  | .device kind =>
      simp only [filesOf, treeOf, Tree.files]
      exact .nil
  | .closedDirectory =>
      simp only [filesOf, treeOf, Tree.files]
      split <;> exact .nil
  | .directory entries =>
      rcases filesOf_directory_cases rules path place entries with none | inside
      · rw [none]
        exact .nil
      · rw [inside]
        exact distinct_filesBelow path place entries named

theorem distinct_filesBelow (path : PathName) (place : Location)
    (entries : List (PathName × Entry)) (named : Entry.allWellNamed entries = true) :
    (filesBelow rules path place entries).1.Pairwise fun first second =>
      first.path ≠ second.path := by
  match entries with
  | [] =>
      rw [filesBelow_nil]
      exact .nil
  | (name, entry) :: later =>
      simp only [Entry.allWellNamed, Bool.and_eq_true] at named
      obtain ⟨⟨⟨isName, fresh⟩, deeper⟩, others⟩ := named
      rw [filesBelow_cons]
      refine pairwise_followedBy (distinct_filesOf (PathName.join path name) _ entry deeper)
        (distinct_filesBelow path place later others) ?_
      intro first inFirst second inLater
      have below := segments_of_mem_filesOf rules _ _ entry deeper first inFirst
      rw [PathName.segments_join path name isName] at below
      obtain ⟨other, among, below'⟩ :=
        segments_of_mem_filesBelow rules path place later others second inLater
      obtain ⟨held, member, rfl⟩ := List.mem_map.mp among
      have apart := bne_iff_ne.mp (List.all_eq_true.mp fresh held member)
      exact path_ne_of_segments _ name held.1 first second apart.symm below below'

end

/-- A walk from a root gives no path twice. -/
theorem distinct_traversal (files : FileSystem) (named : files.root.wellNamed = true)
    (root : PathName) :
    ((files.treeAt root).traversal rules root).1.Pairwise fun first second =>
      first.path ≠ second.path := by
  rw [treeAt]
  cases found : files.find root with
  | error fault => exact .nil
  | ok place =>
      obtain ⟨place, entry⟩ := place
      have held := ((find_eq_ok files root place entry).mp found).2
      have inside := wellNamed_of_entryFrom files.root entry place named held
      cases entry with
      | directory entries =>
          simp only [treeOf]
          split
          · exact distinct_filesBelow rules root [] entries inside
          · exact .nil
      | _ => exact .nil

mutual

theorem held_of_mem_filesOf (path : PathName) (place : Location) (entry : Entry)
    (named : entry.wellNamed = true) (found : Found)
    (member : found ∈ (filesOf rules path place entry).1) :
    ∃ names held, found.place = place ++ names ∧ entryFrom entry names = some held := by
  match entry with
  | .file content =>
      simp only [filesOf, treeOf, Tree.files, List.mem_singleton] at member
      exact ⟨[], _, member ▸ (List.append_nil place).symm, rfl⟩
  | .closedFile size =>
      simp only [filesOf, treeOf, Tree.files, List.mem_singleton] at member
      exact ⟨[], _, member ▸ (List.append_nil place).symm, rfl⟩
  | .link target => simp only [filesOf, treeOf, Tree.files, List.not_mem_nil] at member
  | .device kind => simp only [filesOf, treeOf, Tree.files, List.not_mem_nil] at member
  | .closedDirectory =>
      simp only [filesOf, treeOf, Tree.files] at member
      split at member <;> cases member
  | .directory entries =>
      rcases filesOf_directory_cases rules path place entries with none | inside
      · rw [none] at member
        cases member
      · rw [inside] at member
        obtain ⟨name, names, inner, held, same, first, deeper⟩ :=
          held_of_mem_filesBelow path place entries named found member
        exact ⟨name :: names, held, same, by rw [entryFrom, first]; exact deeper⟩

theorem held_of_mem_filesBelow (path : PathName) (place : Location)
    (entries : List (PathName × Entry)) (named : Entry.allWellNamed entries = true) (found : Found)
    (member : found ∈ (filesBelow rules path place entries).1) :
    ∃ name names inner held, found.place = place ++ name :: names ∧
      Listing.get? entries name = some inner ∧ entryFrom inner names = some held := by
  match entries with
  | [] =>
      rw [filesBelow_nil] at member
      cases member
  | (name, entry) :: later =>
      simp only [Entry.allWellNamed, Bool.and_eq_true] at named
      obtain ⟨⟨⟨-, fresh⟩, deeper⟩, others⟩ := named
      rw [filesBelow_cons] at member
      rcases mem_followedBy member with first | rest
      · obtain ⟨names, held, same, inside⟩ :=
          held_of_mem_filesOf (PathName.join path name) _ entry deeper found first
        refine ⟨name, names, entry, held, ?_, ?_, inside⟩
        · rw [same, List.append_assoc, List.singleton_append]
        · rw [Listing.get?_cons, if_pos (beq_self_eq_true name)]
      · obtain ⟨other, names, inner, held, same, among, inside⟩ :=
          held_of_mem_filesBelow path place later others found rest
        refine ⟨other, names, inner, held, same, ?_, inside⟩
        -- No entry of this name stands before those that hold it.
        have apart := List.all_eq_true.mp fresh _ (Listing.mem_of_get? later other inner among)
        rwa [Listing.get?_cons, if_neg (by simpa using Ne.symm (bne_iff_ne.mp apart))]

end

end FileSystem

end SourceIndex
