import SourceIndex.FileTree

set_option autoImplicit false

namespace SourceIndex

namespace Listing

theorem get?_cons (other name : PathName) (held : Entry) (later : Listing) :
    get? ((other, held) :: later) name = if other == name then some held else get? later name := by
  rw [get?, List.find?_cons]
  cases other == name <;> rfl

theorem get?_put (name other : PathName) (entry : Entry) (listing : Listing) :
    get? (put name entry listing) other =
      if name == other then some entry else get? listing other := by
  induction listing with
  | nil => rw [put, get?_cons]
  | cons head later ih =>
      obtain ⟨first, held⟩ := head
      rw [put]
      by_cases here : first == name
      · have same := eq_of_beq here
        subst same
        simp only [here, ↓reduceIte, get?_cons]
        split <;> rfl
      · simp only [here, Bool.false_eq_true, ↓reduceIte, get?_cons, ih]
        by_cases found : first == other
        · have apart : (name == other) = false := by
            rw [beq_eq_false_iff_ne]
            rintro rfl
            exact here found
          simp only [found, apart, Bool.false_eq_true, ↓reduceIte]
        · simp only [found, Bool.false_eq_true, ↓reduceIte]

end Listing

/-- What an entry is, apart from what it holds. -/
inductive EntryKind where
  | file
  | directory
  | link (target : PathName)
  | device (kind : Device)
  | closedFile (size : Nat)
  | closedDirectory
deriving DecidableEq, Repr

def Entry.kind : Entry → EntryKind
  | file _ => .file
  | directory _ => .directory
  | link target => .link target
  | device kind => .device kind
  | closedFile size => .closedFile size
  | closedDirectory => .closedDirectory

theorem Entry.eq_directory (entry : Entry) (kind : entry.kind = .directory) :
    ∃ entries, entry = directory entries := by
  cases entry with
  | directory entries => exact ⟨entries, rfl⟩
  | _ => contradiction

theorem Entry.eq_link (entry : Entry) (target : PathName) (kind : entry.kind = .link target) :
    entry = link target := by
  cases entry with
  | link other => exact congrArg link (EntryKind.link.inj kind)
  | _ => contradiction

theorem Entry.eq_closedDirectory (entry : Entry) (kind : entry.kind = .closedDirectory) :
    entry = closedDirectory := by
  cases entry with
  | closedDirectory => rfl
  | _ => contradiction

namespace FileSystem

theorem entryFrom_append (entry : Entry) (first second : Location) :
    entryFrom entry (first ++ second) =
      (entryFrom entry first).bind fun inner => entryFrom inner second := by
  induction first generalizing entry with
  | nil =>
      rw [List.nil_append, entryFrom.eq_def entry []]
      rfl
  | cons name names ih =>
      cases entry with
      | directory entries =>
          simp only [List.cons_append, entryFrom]
          cases Listing.get? entries name with
          | none => rfl
          | some inner => exact ih inner
      | _ => rfl

/-- Puts an entry at a place below another one. -/
abbrev placed (new : Entry) (entry : Entry) (location : Location) : Entry :=
  alterFrom (fun _ => some new) entry location

theorem placed_nil (new entry : Entry) : placed new entry [] = new := by
  cases entry <;> rfl

theorem placed_found (new inner : Entry) (entries : Listing) (name : PathName) (names : Location)
    (found : Listing.get? entries name = some inner) :
    placed new (.directory entries) (name :: names) =
      .directory (Listing.put name (placed new inner names) entries) := by
  cases names with
  | nil => rw [placed_nil, placed, alterFrom]
  | cons next names => simp only [placed, alterFrom, found]

theorem placed_fresh (new : Entry) (entries : Listing) (name : PathName) (names : Location)
    (fresh : Listing.get? entries name = none) :
    placed new (.directory entries) (name :: names) =
      .directory (if names.isEmpty then Listing.put name new entries else entries) := by
  cases names with
  | nil => rfl
  | cons next names =>
      simp only [placed, alterFrom, fresh, List.isEmpty_cons, Bool.false_eq_true, ↓reduceIte]

theorem placed_other (new entry : Entry) (name : PathName) (names : Location)
    (other : ∀ entries, entry ≠ .directory entries) :
    placed new entry (name :: names) = entry := by
  cases entry with
  | directory entries => exact absurd rfl (other entries)
  | _ => simp only [placed, alterFrom]

theorem entryFrom_cons (entry found : Entry) (name : PathName) (names : Location)
    (held : entryFrom entry (name :: names) = some found) :
    ∃ entries inner, entry = .directory entries ∧ Listing.get? entries name = some inner ∧
      entryFrom inner names = some found := by
  cases entry with
  | directory entries =>
      rw [entryFrom] at held
      cases present : Listing.get? entries name with
      | none => simp only [present, reduceCtorEq] at held
      | some inner => exact ⟨entries, inner, rfl, present, by simpa only [present] using held⟩
  | _ => simp only [entryFrom, reduceCtorEq] at held

theorem entryFrom_placed (new entry : Entry) (above : Location) (name : PathName)
    (entries : Listing) (directory : entryFrom entry above = some (.directory entries)) :
    entryFrom (placed new entry (above ++ [name])) (above ++ [name]) = some new := by
  induction above generalizing entry with
  | nil =>
      rw [entryFrom, Option.some.injEq] at directory
      subst directory
      simp only [List.nil_append, placed, alterFrom, entryFrom, Listing.get?_put,
        beq_self_eq_true, ↓reduceIte]
  | cons first above ih =>
      obtain ⟨siblings, inner, rfl, found, deeper⟩ := entryFrom_cons entry _ first above directory
      simp only [List.cons_append, placed_found new inner siblings first _ found, entryFrom,
        Listing.get?_put, beq_self_eq_true, ↓reduceIte, ih inner deeper]

theorem entryFrom_placed_below (new entry inner : Entry) (place below : Location)
    (held : entryFrom entry place = some inner) :
    entryFrom (placed new entry (place ++ below)) place = some (placed new inner below) := by
  induction place generalizing entry with
  | nil =>
      rw [entryFrom, Option.some.injEq] at held
      rw [held, List.nil_append, entryFrom]
  | cons name names ih =>
      obtain ⟨entries, next, rfl, found, deeper⟩ := entryFrom_cons entry _ name names held
      simp only [List.cons_append, placed_found new next entries name _ found, entryFrom,
        Listing.get?_put, beq_self_eq_true, ↓reduceIte, ih next deeper]

theorem entryFrom_placed_apart (new entry inner : Entry) (location place : Location)
    (held : entryFrom entry place = some inner) (outside : ¬ place <+: location)
    (apart : ¬ location <+: place) :
    entryFrom (placed new entry location) place = some inner := by
  induction location generalizing entry place with
  | nil => exact absurd List.nil_prefix apart
  | cons name names ih =>
      cases place with
      | nil => exact absurd List.nil_prefix outside
      | cons other others =>
          obtain ⟨entries, next, rfl, found, deeper⟩ := entryFrom_cons entry _ other others held
          by_cases same : name = other
          · subst same
            have inside := ih next others deeper
              (fun inside => outside (List.prefix_cons_inj name |>.mpr inside))
              (fun inside => apart (List.prefix_cons_inj name |>.mpr inside))
            simp only [placed_found new next entries name names found, entryFrom,
              Listing.get?_put, beq_self_eq_true, ↓reduceIte, inside]
          · have differ : (name == other) = false := beq_eq_false_iff_ne.mpr same
            cases present : Listing.get? entries name with
            | some sibling =>
                simp only [placed_found new sibling entries name names present, entryFrom,
                  Listing.get?_put, differ, Bool.false_eq_true, ↓reduceIte, found, deeper]
            | none =>
                rw [placed_fresh new entries name names present]
                split <;> simp only [entryFrom, Listing.get?_put, differ, Bool.false_eq_true,
                  ↓reduceIte, found, deeper]

theorem entryFrom_of_placed (new entry found : Entry) (location place : Location)
    (absent : entryFrom entry place = none)
    (held : entryFrom (placed new entry location) place = some found) :
    ∃ rest, place = location ++ rest ∧ entryFrom new rest = some found := by
  induction location generalizing entry place with
  | nil => exact ⟨place, rfl, placed_nil new entry ▸ held⟩
  | cons name names ih =>
      cases place with
      | nil => simp only [entryFrom, reduceCtorEq] at absent
      | cons other others =>
          cases entry with
          | directory entries =>
              rw [entryFrom] at absent
              cases present : Listing.get? entries name with
              | some inner =>
                  rw [placed_found new inner entries name names present, entryFrom,
                    Listing.get?_put] at held
                  by_cases same : name == other
                  · have equal := eq_of_beq same
                    subst equal
                    simp only [present] at absent
                    simp only [same, ↓reduceIte] at held
                    obtain ⟨rest, below, inside⟩ := ih inner others absent held
                    exact ⟨rest, congrArg (name :: ·) below, inside⟩
                  · simp only [same, Bool.false_eq_true, ↓reduceIte, absent, reduceCtorEq] at held
              | none =>
                  rw [placed_fresh new entries name names present] at held
                  cases names with
                  | nil =>
                      simp only [List.isEmpty_nil, ↓reduceIte, entryFrom,
                        Listing.get?_put] at held
                      by_cases same : name == other
                      · simp only [same, ↓reduceIte] at held
                        exact ⟨others, congrArg (· :: others) (eq_of_beq same).symm, held⟩
                      · simp only [same, Bool.false_eq_true, ↓reduceIte, absent,
                          reduceCtorEq] at held
                  | cons next names =>
                      simp only [List.isEmpty_cons, Bool.false_eq_true, ↓reduceIte, entryFrom,
                        absent, reduceCtorEq] at held
          | _ => simp only [placed, alterFrom, entryFrom, reduceCtorEq] at held

theorem kind_placed_cons (new entry : Entry) (name : PathName) (names : Location) :
    (placed new entry (name :: names)).kind = entry.kind := by
  cases entry with
  | directory entries =>
      cases present : Listing.get? entries name with
      | some inner => rw [placed_found new inner entries name names present]; rfl
      | none => rw [placed_fresh new entries name names present]; rfl
  | _ => rw [placed_other new _ name names fun _ => Entry.noConfusion]

theorem placed_directory (new : Entry) (entries : Listing) (name : PathName) (names : Location) :
    ∃ others, placed new (.directory entries) (name :: names) = .directory others :=
  Entry.eq_directory _ (kind_placed_cons new (.directory entries) name names)

/-- What is put at a place that was empty, or a file in the place of a file, spares all else. -/
def Spares (entry : Entry) (location : Location) (new : Entry) : Prop :=
  ∀ old, entryFrom entry location = some old → old.kind = .file ∧ new.kind = .file

theorem Spares.not_above {new entry found : Entry} {location place : Location}
    (spares : Spares entry location new) (held : entryFrom entry place = some found)
    (outside : ¬ place <+: location) : ¬ location <+: place := by
  rintro ⟨below, rfl⟩
  rw [entryFrom_append] at held
  cases there : entryFrom entry location with
  | none => simp only [there, Option.bind_none, reduceCtorEq] at held
  | some old =>
      cases below with
      | nil => exact outside ⟨[], by simp only [List.append_nil]⟩
      | cons name names =>
          rw [there, Option.bind_some] at held
          obtain ⟨entries, inner, rfl, -⟩ := entryFrom_cons old found name names held
          exact absurd (spares _ there).1 EntryKind.noConfusion

theorem kind_placed {new entry found : Entry} {location place : Location}
    (spares : Spares entry location new) (held : entryFrom entry place = some found) :
    ∃ after, entryFrom (placed new entry location) place = some after ∧
      after.kind = found.kind := by
  by_cases inside : place <+: location
  · obtain ⟨below, rfl⟩ := inside
    refine ⟨_, entryFrom_placed_below new entry found place below held, ?_⟩
    cases below with
    | nil =>
        rw [List.append_nil] at spares
        obtain ⟨old, fresh⟩ := spares found held
        rw [placed_nil, old, fresh]
    | cons name names => exact kind_placed_cons new found name names
  · exact ⟨found, entryFrom_placed_apart new entry found location place held inside
      (spares.not_above held inside), rfl⟩

/-- An entry that is no directory holds what it held, unless it is replaced. -/
theorem entryFrom_placed_elsewhere {new entry found : Entry} {location place : Location}
    (spares : Spares entry location new) (held : entryFrom entry place = some found)
    (elsewhere : place ≠ location) (leaf : found.kind ≠ .directory) :
    entryFrom (placed new entry location) place = some found := by
  by_cases inside : place <+: location
  · obtain ⟨_ | ⟨name, names⟩, rfl⟩ := inside
    · exact absurd (List.append_nil place).symm elsewhere
    · rw [entryFrom_placed_below new entry found place _ held, placed_other new found name names]
      rintro entries rfl
      exact leaf rfl
  · exact entryFrom_placed_apart new entry found location place held inside
      (spares.not_above held inside)

/-- Every entry that was there is still there, and of the kind that it was. -/
structure KeepsKinds (before after : FileSystem) : Prop where
  workingDirectory : after.workingDirectory = before.workingDirectory
  kinds : ∀ place found, before.entryAt place = some found →
    ∃ entry, after.entryAt place = some entry ∧ entry.kind = found.kind

theorem KeepsKinds.refl (files : FileSystem) : KeepsKinds files files :=
  ⟨rfl, fun _ found held => ⟨found, held, rfl⟩⟩

theorem KeepsKinds.trans {first second third : FileSystem} (earlier : KeepsKinds first second)
    (later : KeepsKinds second third) : KeepsKinds first third := by
  refine ⟨later.workingDirectory.trans earlier.workingDirectory, ?_⟩
  intro place found held
  obtain ⟨middle, there, same⟩ := earlier.kinds place found held
  obtain ⟨entry, present, still⟩ := later.kinds place middle there
  exact ⟨entry, present, still.trans same⟩

theorem keepsKinds_put (files : FileSystem) (location : Location) (new : Entry)
    (spares : Spares files.root location new) : KeepsKinds files (files.put location new) :=
  ⟨rfl, fun _ _ held => kind_placed spares held⟩

end FileSystem

end SourceIndex
