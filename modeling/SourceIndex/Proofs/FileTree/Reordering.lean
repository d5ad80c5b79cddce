import SourceIndex.Proofs.FileTree.Names
import SourceIndex.Proofs.FileTree.Paths

set_option autoImplicit false

namespace SourceIndex

mutual

/-- Two entries that differ in nothing but the order in which directories list their entries. -/
inductive Entry.Reordered : Entry → Entry → Prop where
  | file (content : List UInt8) : Entry.Reordered (.file content) (.file content)
  | link (target : PathName) : Entry.Reordered (.link target) (.link target)
  | device (kind : Device) : Entry.Reordered (.device kind) (.device kind)
  | closedFile (size : Nat) : Entry.Reordered (.closedFile size) (.closedFile size)
  | closedDirectory : Entry.Reordered .closedDirectory .closedDirectory
  | directory {entries others : List (PathName × Entry)}
      (listed : Listing.Reordered entries others) :
      Entry.Reordered (.directory entries) (.directory others)

/-- Two listings of the same entries, each of which may stand anywhere in the other listing. -/
inductive Listing.Reordered : List (PathName × Entry) → List (PathName × Entry) → Prop where
  | nil : Listing.Reordered [] []
  | moved {name : PathName} {entry other : Entry} {later before after : List (PathName × Entry)}
      (same : Entry.Reordered entry other) (rest : Listing.Reordered later (before ++ after)) :
      Listing.Reordered ((name, entry) :: later) (before ++ (name, other) :: after)

end

namespace Listing

theorem get?_append_cons (before after : Listing) (name other : PathName) (entry : Entry)
    (distinct : (names (before ++ (other, entry) :: after)).Nodup) :
    get? (before ++ (other, entry) :: after) name =
      if other == name then some entry else get? (before ++ after) name := by
  induction before with
  | nil => exact get?_cons other name entry after
  | cons head before ih =>
      obtain ⟨first, held⟩ := head
      simp only [names, List.cons_append, List.map_cons, List.nodup_cons] at distinct
      obtain ⟨apart, rest⟩ := distinct
      rw [List.cons_append, List.cons_append, get?_cons, get?_cons, ih rest]
      by_cases here : first == name
      · have differ : (other == name) = false := by
          rw [beq_eq_false_iff_ne]
          rintro rfl
          exact apart (by simp [eq_of_beq here])
        simp only [here, differ, Bool.false_eq_true, ↓reduceIte]
      · simp only [here, Bool.false_eq_true, ↓reduceIte]

theorem exists_put_append_cons (name other : PathName) (new entry : Entry) (apart : other ≠ name)
    (before after : Listing) :
    ∃ front back, put name new (before ++ after) = front ++ back ∧
      put name new (before ++ (other, entry) :: after) = front ++ (other, entry) :: back := by
  induction before with
  | nil =>
      refine ⟨[], put name new after, rfl, ?_⟩
      rw [List.nil_append, put, if_neg (by simpa using apart)]
      rfl
  | cons head before ih =>
      obtain ⟨first, held⟩ := head
      rw [List.cons_append, List.cons_append, put, put]
      by_cases here : first == name
      · rw [if_pos here, if_pos here]
        exact ⟨(name, new) :: before, after, rfl, rfl⟩
      · obtain ⟨front, back, same, same'⟩ := ih
        rw [if_neg here, if_neg here, same, same']
        exact ⟨(first, held) :: front, back, rfl, rfl⟩

theorem put_append_cons_self (name : PathName) (new entry : Entry) (before after : Listing)
    (fresh : name ∉ names before) :
    put name new (before ++ (name, entry) :: after) = before ++ (name, new) :: after := by
  induction before with
  | nil => rw [List.nil_append, put, if_pos (beq_self_eq_true name), List.nil_append]
  | cons head before ih =>
      obtain ⟨first, held⟩ := head
      rw [names, List.map_cons, List.mem_cons, not_or] at fresh
      rw [List.cons_append, put, if_neg (by simpa using Ne.symm fresh.1), ih fresh.2,
        List.cons_append]

end Listing

theorem Listing.Reordered.cons {entry other : Entry} {later others : Listing} (name : PathName)
    (same : entry.Reordered other) (rest : Reordered later others) :
    Reordered ((name, entry) :: later) ((name, other) :: others) := by
  rw [← List.nil_append ((name, other) :: others)]
  exact .moved same rest

mutual

theorem Entry.Reordered.refl (entry : Entry) : entry.Reordered entry := by
  match entry with
  | .file content => exact .file content
  | .link target => exact .link target
  | .device kind => exact .device kind
  | .closedFile size => exact .closedFile size
  | .closedDirectory => exact .closedDirectory
  | .directory entries => exact .directory (Listing.Reordered.refl entries)

theorem Listing.Reordered.refl (entries : List (PathName × Entry)) :
    Listing.Reordered entries entries := by
  match entries with
  | [] => exact .nil
  | (name, entry) :: later =>
      exact .cons name (.refl entry) (Listing.Reordered.refl later)

end

/-- The entry that is moved may also be the one that is taken from the second listing. -/
theorem Listing.Reordered.insert {name : PathName} {entry other : Entry}
    (same : entry.Reordered other) (before after others : Listing)
    (rest : Reordered (before ++ after) others) :
    Reordered (before ++ (name, entry) :: after) ((name, other) :: others) := by
  induction before generalizing others with
  | nil => exact .cons name same rest
  | cons head before ih =>
      rw [List.cons_append] at rest
      -- Where the first entry stands in the second listing, it stands one further down.
      cases rest with
      | moved same' rest' =>
          rw [← List.cons_append]
          exact .moved same' (ih _ rest')

mutual

theorem Entry.Reordered.symm {entry other : Entry} (same : entry.Reordered other) :
    other.Reordered entry := by
  match same with
  | .file content => exact .file content
  | .link target => exact .link target
  | .device kind => exact .device kind
  | .closedFile size => exact .closedFile size
  | .closedDirectory => exact .closedDirectory
  | .directory listed => exact .directory listed.symm

theorem Listing.Reordered.symm {entries others : List (PathName × Entry)}
    (listed : Listing.Reordered entries others) : Listing.Reordered others entries := by
  match listed with
  | .nil => exact .nil
  | .moved same rest => exact .insert same.symm _ _ _ rest.symm

end

namespace Listing.Reordered

variable {entries others : Listing}

theorem of_perm (permuted : entries.Perm others) : Reordered entries others := by
  induction entries generalizing others with
  | nil =>
      obtain rfl := permuted.nil_eq
      exact .nil
  | cons head later ih =>
      obtain ⟨name, entry⟩ := head
      obtain ⟨before, after, rfl⟩ := List.append_of_mem (permuted.subset List.mem_cons_self)
      exact .moved (.refl entry) (ih (permuted.trans List.perm_middle).cons_inv)

theorem names_perm (listed : Reordered entries others) : (names entries).Perm (names others) := by
  induction entries generalizing others with
  | nil =>
      cases listed
      exact .nil
  | cons head later ih =>
      cases listed with
      | moved same rest =>
          have among := ih rest
          simp only [names, List.map_append, List.map_cons] at among ⊢
          exact (among.cons _).trans List.perm_middle.symm

theorem distinct (listed : Reordered entries others) (distinct : (names entries).Nodup) :
    (names others).Nodup := listed.names_perm.nodup_iff.mp distinct

/-- A name stands for nothing in both listings, or for the same in both. -/
theorem get?_cases (listed : Reordered entries others) (distinct : (names entries).Nodup)
    (name : PathName) :
    (get? entries name = none ∧ get? others name = none) ∨
      ∃ entry other, get? entries name = some entry ∧ get? others name = some other ∧
        entry.Reordered other := by
  induction entries generalizing others with
  | nil =>
      cases listed
      exact .inl ⟨rfl, rfl⟩
  | cons head later ih =>
      have distinct' := listed.distinct distinct
      cases listed with
      | @moved first entry other _ before after same rest =>
          rw [get?_cons, get?_append_cons before after name first other distinct']
          by_cases here : first == name
          · rw [if_pos here, if_pos here]
            exact .inr ⟨entry, other, rfl, rfl, same⟩
          · rw [if_neg here, if_neg here]
            exact ih rest (List.nodup_cons.mp distinct).2

theorem put (listed : Reordered entries others) (distinct : (names entries).Nodup) (name : PathName)
    {new new' : Entry} (same : new.Reordered new') :
    Reordered (Listing.put name new entries) (Listing.put name new' others) := by
  induction entries generalizing others with
  | nil =>
      cases listed
      exact .cons name same .nil
  | cons head later ih =>
      have distinct' := listed.distinct distinct
      cases listed with
      | @moved first entry other _ before after same' rest =>
          by_cases here : first = name
          · subst here
            -- No other entry of this name stands before the one that is replaced.
            have fresh : first ∉ names before := by
              intro member
              rw [names, List.map_append, List.map_cons] at distinct'
              exact (List.nodup_append.mp distinct').2.2 first member first List.mem_cons_self rfl
            rw [Listing.put, if_pos (beq_self_eq_true first),
              put_append_cons_self first new' other before after fresh]
            exact .moved same rest
          · obtain ⟨front, back, less, whole⟩ :=
              exists_put_append_cons name first new' other here before after
            have deeper := ih rest (List.nodup_cons.mp distinct).2
            rw [less] at deeper
            rw [Listing.put, if_neg (by simpa using here), whole]
            exact .moved same' deeper

end Listing.Reordered

mutual

theorem Entry.Reordered.wellNamed {entry other : Entry} (same : entry.Reordered other)
    (named : entry.wellNamed = true) : other.wellNamed = true := by
  match same with
  | .file content => rfl
  | .link target => rfl
  | .device kind => rfl
  | .closedFile size => rfl
  | .closedDirectory => rfl
  | .directory listed => exact listed.allWellNamed named

theorem Listing.Reordered.allWellNamed {entries others : Listing}
    (listed : Listing.Reordered entries others) (named : Entry.allWellNamed entries = true) :
    Entry.allWellNamed others = true := by
  match listed with
  | .nil => exact named
  | @Listing.Reordered.moved name entry other later before after same rest =>
      have distinct := (Listing.Reordered.moved same rest).distinct
        ((Entry.allWellNamed_iff _).mp named).2
      simp only [Entry.allWellNamed, Bool.and_eq_true] at named
      obtain ⟨⟨⟨isName, -⟩, deeper⟩, others⟩ := named
      have among := ((Entry.allWellNamed_iff _).mp (rest.allWellNamed others)).1
      refine (Entry.allWellNamed_iff _).mpr ⟨?_, distinct⟩
      intro first held member
      rw [List.mem_append, List.mem_cons] at member
      rcases member with inside | here | inside
      · exact among first held (List.mem_append_left _ inside)
      · cases here
        exact ⟨isName, same.wellNamed deeper⟩
      · exact among first held (List.mem_append_right _ inside)

end

namespace FileSystem

theorem distinct_of_wellNamed {entries : Listing}
    (named : (Entry.directory entries).wellNamed = true) : (Listing.names entries).Nodup :=
  ((Entry.allWellNamed_iff entries).mp named).2

/-- At a place there is nothing in both trees, or the same in both. -/
theorem entryFrom_cases {entry other : Entry} (same : entry.Reordered other)
    (named : entry.wellNamed = true) (place : Location) :
    (entryFrom entry place = none ∧ entryFrom other place = none) ∨
      ∃ held held', entryFrom entry place = some held ∧ entryFrom other place = some held' ∧
        held.Reordered held' := by
  induction place generalizing entry other with
  | nil => exact .inr ⟨entry, other, by rw [entryFrom], by rw [entryFrom], same⟩
  | cons name names ih =>
      cases same with
      | directory listed =>
          rw [entryFrom, entryFrom]
          rcases listed.get?_cases (distinct_of_wellNamed named) name with
            ⟨none, none'⟩ | ⟨inner, inner', found, found', same⟩
          · rw [none, none']
            exact .inl ⟨rfl, rfl⟩
          · rw [found, found']
            exact ih same (Entry.wellNamed_of_get? named found)
      | _ => exact .inl ⟨rfl, rfl⟩

theorem reordered_placed {new new' entry other : Entry} (fresh : new.Reordered new')
    (same : entry.Reordered other) (named : entry.wellNamed = true) (location : Location) :
    (placed new entry location).Reordered (placed new' other location) := by
  induction location generalizing entry other with
  | nil =>
      rw [placed_nil, placed_nil]
      exact fresh
  | cons name names ih =>
      cases same with
      | directory listed =>
          rename_i entries others
          have distinct := distinct_of_wellNamed named
          rcases listed.get?_cases distinct name with
            ⟨none, none'⟩ | ⟨inner, inner', found, found', same⟩
          · rw [placed_fresh new entries name names none, placed_fresh new' others name names none']
            split
            · exact .directory (listed.put distinct name fresh)
            · exact .directory listed
          · rw [placed_found new inner entries name names found,
              placed_found new' inner' others name names found']
            have deeper := Entry.wellNamed_of_get? named found
            exact .directory (listed.put distinct name (ih same deeper))
      | _ =>
          rw [placed_other new _ name names fun _ => Entry.noConfusion,
            placed_other new' _ name names fun _ => Entry.noConfusion]
          exact .refl _

/-- Two file systems with the same tree, in which names are given and told apart, up to the order
in which directories are listed. -/
structure Reordered (files others : FileSystem) : Prop where
  named : files.root.wellNamed = true
  root : files.root.Reordered others.root
  workingDirectory : others.workingDirectory = files.workingDirectory

namespace Reordered

variable {files others : FileSystem} (reordered : files.Reordered others)

include reordered

theorem symm : others.Reordered files :=
  ⟨reordered.root.wellNamed reordered.named, reordered.root.symm,
    reordered.workingDirectory.symm⟩

theorem entryAt_cases (place : Location) :
    (files.entryAt place = none ∧ others.entryAt place = none) ∨
      ∃ held held', files.entryAt place = some held ∧ others.entryAt place = some held' ∧
        held.Reordered held' :=
  entryFrom_cases reordered.root reordered.named place

theorem resolveFrom (follow : Bool) (fuel links : Nat) (here : Location) (path : List PathName) :
    others.resolveFrom follow fuel links here path =
      files.resolveFrom follow fuel links here path := by
  induction fuel generalizing links here path with
  | zero => rfl
  | succ fuel ih =>
      cases path with
      | nil => rfl
      | cons part later =>
          rw [FileSystem.resolveFrom, FileSystem.resolveFrom]
          rcases reordered.entryAt_cases here with
            ⟨none, none'⟩ | ⟨held, held', found, found', same⟩
          · rw [none, none']
          · rw [found, found']
            cases same with
            | directory listed =>
                have named := wellNamed_of_entryFrom _ _ here reordered.named found
                simp only [ih]
                rcases listed.get?_cases (distinct_of_wellNamed named) part with
                  ⟨none, none'⟩ | ⟨inner, inner', inside, inside', same⟩
                · rw [none, none']
                · rw [inside, inside']
                  cases same <;> rfl
            | closedDirectory => simp only [ih]
            | _ => rfl

theorem resolve (follow : Bool) (path : PathName) :
    others.resolve follow path = files.resolve follow path := by
  rw [FileSystem.resolve, FileSystem.resolve, reordered.workingDirectory]
  simp only [reordered.resolveFrom]

theorem put (location : Location) {new new' : Entry} (fresh : new.Reordered new')
    (named : (files.put location new).root.wellNamed = true) :
    (files.put location new).Reordered (others.put location new') :=
  ⟨named, reordered_placed fresh reordered.root reordered.named location,
    reordered.workingDirectory⟩

end Reordered

end FileSystem

end SourceIndex
