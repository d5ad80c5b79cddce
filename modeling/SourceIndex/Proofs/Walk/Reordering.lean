import SourceIndex.Proofs.Store.Reordering
import SourceIndex.Proofs.Walk.Growth

set_option autoImplicit false

namespace SourceIndex

namespace Harvest

variable {α ε : Type}

/-- Two harvests both of which fail, or which have the same items in some order. -/
structure Reorders (first second : Harvest α ε) : Prop where
  whole : first.2 = none ↔ second.2 = none
  items : first.2 = none → first.1.Perm second.1

theorem Reorders.refl (harvest : Harvest α ε) : Reorders harvest harvest :=
  ⟨Iff.rfl, fun _ => .refl _⟩

theorem Reorders.trans {first second third : Harvest α ε} (earlier : Reorders first second)
    (later : Reorders second third) : Reorders first third :=
  ⟨earlier.whole.trans later.whole, fun whole =>
    (earlier.items whole).trans (later.items (earlier.whole.mp whole))⟩

theorem Reorders.of_failures {first second : Harvest α ε} (failed : first.2 ≠ none)
    (failed' : second.2 ≠ none) : Reorders first second :=
  ⟨⟨fun whole => absurd whole failed, fun whole => absurd whole failed'⟩,
    fun whole => absurd whole failed⟩

theorem Reorders.followedBy {first first' later later' : Harvest α ε}
    (firsts : Reorders first first') (laters : Reorders later later') :
    Reorders (first.followedBy later) (first'.followedBy later') := by
  obtain ⟨items, _ | failure⟩ := first
  · obtain ⟨items', _ | failure⟩ := first'
    · exact ⟨laters.whole, fun whole => (firsts.items rfl).append (laters.items whole)⟩
    · cases firsts.whole.mp rfl
  · obtain ⟨items', _ | failure'⟩ := first'
    · cases firsts.whole.mpr rfl
    · exact .of_failures (Option.some_ne_none _) (Option.some_ne_none _)

theorem reorders_swap (first second third : Harvest α ε) :
    Reorders (first.followedBy (second.followedBy third))
      (second.followedBy (first.followedBy third)) := by
  obtain ⟨items, _ | failure⟩ := first
  · obtain ⟨items', _ | failure⟩ := second
    · obtain ⟨others, ended⟩ := third
      refine ⟨Iff.rfl, fun _ => ?_⟩
      simp only [Harvest.followedBy, ← List.append_assoc]
      exact List.perm_append_comm.append_right others
    · exact .of_failures (Option.some_ne_none _) (Option.some_ne_none _)
  · obtain ⟨items', _ | failure'⟩ := second
    · exact .of_failures (Option.some_ne_none _) (Option.some_ne_none _)
    · exact .of_failures (Option.some_ne_none _) (Option.some_ne_none _)

end Harvest

namespace FileSystem

open Harvest (Reorders reorders_swap)

variable (rules : Exclusion)

theorem filesBelow_append (path : PathName) (place : Location) (before after : Listing) :
    filesBelow rules path place (before ++ after) =
      (filesBelow rules path place before).followedBy (filesBelow rules path place after) := by
  induction before with
  | nil => rw [List.nil_append, filesBelow_nil, Harvest.nil_followedBy]
  | cons head before ih =>
      obtain ⟨name, entry⟩ := head
      rw [List.cons_append, filesBelow_cons, filesBelow_cons, ih, Harvest.followedBy_assoc]

mutual

theorem reorders_filesOf (path : PathName) (place : Location) {entry other : Entry}
    (same : entry.Reordered other) :
    Reorders (filesOf rules path place entry) (filesOf rules path place other) := by
  match same with
  | .file content => exact .refl _
  | .link target => exact .refl _
  | .device kind => exact .refl _
  | .closedFile size => exact .refl _
  | .closedDirectory => exact .refl _
  | .directory listed =>
      have inside := reorders_filesBelow path place listed
      simp only [filesOf, treeOf]
      split
      · rw [Tree.files, Tree.files]
        split
        · exact .refl _
        · exact inside
      · exact .refl _

/-- An entry gives its files sooner or later, between those of the entries around it. -/
theorem reorders_filesBelow (path : PathName) (place : Location) {entries others : Listing}
    (listed : Listing.Reordered entries others) :
    Reorders (filesBelow rules path place entries) (filesBelow rules path place others) := by
  match listed with
  | .nil => exact .refl _
  | @Listing.Reordered.moved name entry other later before after same rest =>
      have firsts := reorders_filesOf (PathName.join path name) (place ++ [name]) same
      have laters := reorders_filesBelow path place rest
      -- The files of the entry change places with those of the entries before it.
      rw [filesBelow_append] at laters
      rw [filesBelow_cons, filesBelow_append, filesBelow_cons]
      exact (firsts.followedBy laters).trans (reorders_swap _ _ _)

end

theorem Reordered.traversal {files others : FileSystem} (reordered : files.Reordered others)
    (root : PathName) :
    Reorders ((files.treeAt root).traversal rules root)
      ((others.treeAt root).traversal rules root) := by
  rw [treeAt, treeAt]
  rcases (reordered.find root).cases with
    ⟨fault, failed, failed'⟩ | ⟨⟨_, entry⟩, ⟨_, entry'⟩, found, found', -, same⟩
  · rw [failed, failed']
    exact .refl _
  · rw [found, found']
    cases same with
    | directory listed =>
        simp only [treeOf]
        split
        · exact reorders_filesBelow rules root [] listed
        · exact .refl _
    | _ => exact .refl _

end FileSystem

end SourceIndex
