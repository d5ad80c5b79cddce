import SourceIndex.Indexing
import SourceIndex.Proofs.FileTree.Names
import SourceIndex.Proofs.FileTree.Paths
import SourceIndex.Proofs.Walk.Growth

set_option autoImplicit false

namespace SourceIndex

namespace FileSystem

open Harvest (AgreesIfWhole Gains)

/-- All entries keep their kinds, and a walk below the directory at a place that ends well gives
the files that it would have given. -/
structure KeepsWalk (place : Location) (before after : FileSystem) : Prop
    extends KeepsKinds before after where
  walk : ∀ entries, before.entryAt place = some (.directory entries) →
    ∃ others, after.entryAt place = some (.directory others) ∧
      ∀ rules path,
        AgreesIfWhole (filesBelow rules path [] entries) (filesBelow rules path [] others)

theorem KeepsWalk.refl (place : Location) (files : FileSystem) : KeepsWalk place files files :=
  ⟨.refl files, fun entries directory => ⟨entries, directory, fun _ _ => .refl _⟩⟩

theorem KeepsWalk.trans {place : Location} {first second third : FileSystem}
    (earlier : KeepsWalk place first second) (later : KeepsWalk place second third) :
    KeepsWalk place first third := by
  refine ⟨earlier.toKeepsKinds.trans later.toKeepsKinds, ?_⟩
  intro entries directory
  obtain ⟨middle, there, agrees⟩ := earlier.walk entries directory
  obtain ⟨others, present, still⟩ := later.walk middle there
  exact ⟨others, present, fun rules path => (agrees rules path).trans (still rules path)⟩

theorem keepsWalk_put_outside (files : FileSystem) (location place : Location) (new : Entry)
    (spares : Spares files.root location new) (outside : ¬ place <+: location) :
    KeepsWalk place files (files.put location new) := by
  refine ⟨keepsKinds_put files location new spares, ?_⟩
  intro entries directory
  have apart := spares.not_above directory outside
  exact ⟨entries, entryFrom_placed_apart new files.root _ location place directory outside apart,
    fun _ _ => .refl _⟩

theorem Vacant.spares {files : FileSystem} {location : Location} (vacant : Vacant files location)
    (new : Entry) : Spares files.root location new := by
  intro old held
  have absent := vacant.absent
  rw [entryAt, held] at absent
  cases absent

theorem gains_put_below (files : FileSystem) (place names : Location) (new : Entry)
    (entries : Listing) (directory : files.entryAt place = some (.directory entries))
    (vacant : Vacant files (place ++ names)) :
    ∃ others, (files.put (place ++ names) new).entryAt place = some (.directory others) ∧
      ∀ rules path, Gains (arrivals rules new path [] names) (filesBelow rules path [] entries)
        (filesBelow rules path [] others) := by
  obtain ⟨absent, above, last, below, way, -, held⟩ := vacant
  rw [entryAt] at directory absent held
  rw [entryFrom_append, directory, Option.bind_some] at absent
  cases names with
  | nil => cases absent
  | cons name names =>
      have parent : above = place ++ (name :: names).dropLast := by
        have ends := congrArg List.dropLast way
        rwa [List.dropLast_concat, List.dropLast_append_of_ne_nil (List.cons_ne_nil name names),
          eq_comm] at ends
      rw [parent, entryFrom_append, directory, Option.bind_some] at held
      obtain ⟨others, same⟩ := placed_directory new entries name names
      have put := entryFrom_placed_below new files.root _ place (name :: names) directory
      exact ⟨others, put.trans (congrArg some same), fun rules path =>
        gains_placed rules path [] new entries others below name names absent held same⟩

theorem keepsWalk_put_empty (files : FileSystem) (location place : Location)
    (vacant : Vacant files location) : KeepsWalk place files (files.put location .empty) := by
  by_cases inside : place <+: location
  · refine ⟨keepsKinds_put files location .empty (vacant.spares _), ?_⟩
    intro entries directory
    obtain ⟨names, rfl⟩ := inside
    obtain ⟨others, there, gains⟩ :=
      gains_put_below files place names .empty entries directory vacant
    refine ⟨others, there, fun rules path => ?_⟩
    have nothing := gains rules path
    rwa [arrivals_empty, Harvest.gains_nil_iff] at nothing
  · exact keepsWalk_put_outside files location place .empty (vacant.spares _) inside

/-- Something that has names may be put at an empty place, and a file in the place of a file. -/
theorem wellNamed_put (files : FileSystem) (location : Location) (new : Entry)
    (named : files.root.wellNamed = true) (fresh : new.wellNamed = true)
    (vacant : files.entryAt location = none → Vacant files location) :
    (files.put location new).root.wellNamed = true := by
  refine wellNamed_placed new files.root location named fresh fun absent => ?_
  obtain ⟨above, name, entries, same, isName, -⟩ := (vacant absent).above
  exact ⟨above, name, same, isName⟩

/-- Nothing is done but that empty directories are made, one after the other, at empty places. -/
inductive MakesDirectories (files : FileSystem) : FileSystem → Prop where
  | nothing : MakesDirectories files files
  | directory {middle : FileSystem} {location : Location}
      (earlier : MakesDirectories files middle) (vacant : Vacant middle location) :
      MakesDirectories files (middle.put location .empty)

theorem MakesDirectories.trans {first second third : FileSystem}
    (earlier : MakesDirectories first second) (later : MakesDirectories second third) :
    MakesDirectories first third := by
  induction later with
  | nothing => exact earlier
  | directory _ vacant ih => exact .directory ih vacant

theorem makeDirectory_makes (files after : FileSystem) (path : PathName)
    (made : files.makeDirectory path = .ok after) : MakesDirectories files after := by
  simp only [makeDirectory, bind, Except.bind] at made
  split at made
  · cases made
  · rename_i location resolved
    split at made
    · cases made
    · rename_i absent
      cases made
      exact .directory .nothing (resolve_vacant files false path location resolved absent)

theorem makeDirectories_makes (fuel : Nat) (files after : FileSystem) (path : PathName)
    (made : makeDirectories fuel files path = .ok after) : MakesDirectories files after := by
  induction fuel generalizing after path with
  | zero => cases made
  | succ fuel ih =>
      rw [makeDirectories] at made
      split at made
      · cases made
        exact .nothing
      · split at made
        · rename_i step
          cases made
          exact makeDirectory_makes files _ path step
        · split at made
          · cases made
          · rename_i above _
            simp only [bind, Except.bind] at made
            split at made
            · cases made
            · rename_i middle deeper
              have earlier := ih middle above deeper
              split at made
              · rename_i step
                cases made
                exact earlier.trans (makeDirectory_makes middle _ path step)
              · split at made
                · cases made
                  exact earlier
                · cases made
        · split at made
          · cases made
            exact .nothing
          · cases made

theorem MakesDirectories.keepsWalk {before after : FileSystem}
    (makes : MakesDirectories before after) (place : Location) : KeepsWalk place before after := by
  induction makes with
  | nothing => exact .refl place before
  | directory _ vacant ih => exact ih.trans (keepsWalk_put_empty _ _ place vacant)

theorem MakesDirectories.wellNamed {before after : FileSystem}
    (makes : MakesDirectories before after) (named : before.root.wellNamed = true) :
    after.root.wellNamed = true := by
  induction makes with
  | nothing => exact named
  | directory _ vacant ih => exact wellNamed_put _ _ .empty ih rfl fun _ => vacant

/-- An entry lies where it was put, if that is where a path leads. -/
theorem entryAt_put (files : FileSystem) (location : Location) (new : Entry)
    (lands : Lands files location) : (files.put location new).entryAt location = some new := by
  cases present : files.entryAt location with
  | none =>
      obtain ⟨above, name, entries, rfl, directory⟩ := lands.above present
      exact entryFrom_placed new files.root above name entries directory
  | some old =>
      have below := entryFrom_placed_below new files.root old location [] present
      rwa [List.append_nil, placed_nil] at below

/-- A store is made where a file was or nothing was, if not on a device. -/
theorem create_eq_ok (files made : FileSystem) (path : PathName) (location : Location)
    (created : files.create path = .ok (location, made)) :
    (∃ kind, files.entryAt location = some (.device kind) ∧ made = files) ∨
      (Spares files.root location (.file []) ∧ made = files.put location (.file []) ∧
        made.entryAt location = some (.file [])) := by
  simp only [create, bind, Except.bind] at created
  split at created
  · split at created
    all_goals cases created
  · cases resolved : files.resolve true path with
    | error fault =>
        simp only [resolved] at created
        cases created
    | ok place =>
        have lands := resolve_lands files path place resolved
        have there := entryAt_put files place (.file []) lands
        simp only [resolved] at created
        cases present : files.entryAt place with
        | none =>
            simp only [present] at created
            cases created
            refine .inr ⟨?_, rfl, there⟩
            intro old held
            rw [entryAt, held] at present
            cases present
        | some old =>
            simp only [present] at created
            cases old with
            | directory entries => cases created
            | closedDirectory => cases created
            | closedFile size => cases created
            | device kind =>
                cases created
                exact .inl ⟨kind, present, rfl⟩
            | link target => exact absurd rfl (lands.solid _ present target)
            | file content =>
                cases created
                refine .inr ⟨?_, rfl, there⟩
                intro old held
                rw [entryAt, held, Option.some.injEq] at present
                exact present ▸ ⟨rfl, rfl⟩

theorem resolve_of_create (files made : FileSystem) (path : PathName) (location : Location)
    (created : files.create path = .ok (location, made)) :
    files.resolve true path = .ok location := by
  simp only [create, bind, Except.bind] at created
  split at created
  · split at created
    all_goals cases created
  · split at created
    · cases created
    · rename_i place resolved
      rw [resolved, Except.ok.injEq]
      split at created
      all_goals cases created
      all_goals rfl

theorem create_keepsWalk (files made : FileSystem) (path : PathName) (location place : Location)
    (created : files.create path = .ok (location, made)) (outside : ¬ place <+: location) :
    KeepsWalk place files made := by
  rcases create_eq_ok files made path location created with ⟨kind, -, rfl⟩ | ⟨spares, rfl, -⟩
  · exact .refl place made
  · exact keepsWalk_put_outside files location place _ spares outside

/-- A store is created in a file system in which only directories are new. -/
theorem createStore_eq_ok (files made : FileSystem) (path : String) (location : Location)
    (created : files.createStore path = .ok (location, made)) :
    ∃ ready, ready.create path = .ok (location, made) ∧ MakesDirectories files ready := by
  rw [createStore] at created
  split at created
  · rename_i result step
    cases created
    cases above : parent? path with
    | none =>
        simp only [above] at step
        exact ⟨files, step, .nothing⟩
    | some directory =>
        simp only [above, bind, Except.bind] at step
        split at step
        · cases step
        · rename_i ready prepared
          exact ⟨ready, step, makeDirectories_makes _ files ready directory prepared⟩
  · cases created

theorem createStore_keepsKinds (files made : FileSystem) (path : String) (location : Location)
    (created : files.createStore path = .ok (location, made)) : KeepsKinds files made := by
  obtain ⟨ready, opened, prepared⟩ := createStore_eq_ok files made path location created
  refine (prepared.keepsWalk location).toKeepsKinds.trans ?_
  rcases create_eq_ok ready made path location opened with ⟨kind, -, rfl⟩ | ⟨spares, rfl, -⟩
  · exact .refl made
  · exact keepsKinds_put ready location _ spares

/-- A path leads to the place where it led, and to an entry of the same kind. -/
theorem KeepsKinds.find {before after : FileSystem} (keeps : KeepsKinds before after)
    (path : PathName) (place : Location) (entry : Entry)
    (found : before.find path = .ok (place, entry)) :
    ∃ other, after.find path = .ok (place, other) ∧ other.kind = entry.kind := by
  obtain ⟨resolved, held⟩ := (find_eq_ok before path place entry).mp found
  obtain ⟨other, there, kind⟩ := keeps.kinds place entry held
  have led := keeps.resolve true path place entry resolved held
  exact ⟨other, (find_eq_ok after path place other).mpr ⟨led, there⟩, kind⟩

theorem createStore_keepsWalk (files made : FileSystem) (path : String)
    (location place : Location) (created : files.createStore path = .ok (location, made))
    (outside : ¬ place <+: location) : KeepsWalk place files made := by
  obtain ⟨ready, opened, prepared⟩ := createStore_eq_ok files made path location created
  exact (prepared.keepsWalk place).trans
    (create_keepsWalk ready made path location place opened outside)

/-- Everything keeps its name when a store is made, and the store has one. -/
theorem createStore_wellNamed (files made : FileSystem) (path : String) (location : Location)
    (created : files.createStore path = .ok (location, made))
    (named : files.root.wellNamed = true) : made.root.wellNamed = true := by
  obtain ⟨ready, opened, prepared⟩ := createStore_eq_ok files made path location created
  have names := prepared.wellNamed named
  have vacant := resolve_vacant ready true path location
    (resolve_of_create ready made path location opened)
  rcases create_eq_ok ready made path location opened with ⟨-, -, rfl⟩ | ⟨-, rfl, -⟩
  · exact names
  · exact wellNamed_put ready location (.file []) names rfl vacant

theorem entryAt_of_createStore (files made : FileSystem) (path : String) (location : Location)
    (created : files.createStore path = .ok (location, made))
    (file : ∀ kind, made.entryAt location ≠ some (.device kind)) :
    made.entryAt location = some (.file []) := by
  obtain ⟨ready, opened, -⟩ := createStore_eq_ok files made path location created
  rcases create_eq_ok ready made path location opened with ⟨kind, device, rfl⟩ | ⟨-, -, empty⟩
  · exact absurd device (file kind)
  · exact empty

theorem MakesDirectories.kind_of_new {before after : FileSystem}
    (makes : MakesDirectories before after) {place : Location} {found : Entry}
    (absent : before.entryAt place = none) (held : after.entryAt place = some found) :
    found.kind = .directory := by
  induction makes generalizing found with
  | nothing =>
      rw [absent] at held
      cases held
  | @directory middle location _ vacant ih =>
      cases there : middle.entryAt place with
      | some other =>
          obtain ⟨still, present, kind⟩ := kind_placed (vacant.spares .empty) there
          rw [entryAt, FileSystem.put, alter, present, Option.some.injEq] at held
          exact held ▸ kind.trans (ih there)
      | none =>
          obtain ⟨rest, -, inside⟩ :=
            entryFrom_of_placed .empty middle.root found location place there held
          cases rest with
          | nil =>
              rw [entryFrom, Option.some.injEq] at inside
              exact inside ▸ rfl
          | cons name names => cases inside

/-- A store that is made where nothing was is put at an empty place. -/
theorem createStore_of_absent (files made : FileSystem) (path : String) (location : Location)
    (created : files.createStore path = .ok (location, made))
    (absent : files.entryAt location = none) :
    ∃ ready, MakesDirectories files ready ∧ Vacant ready location ∧
      made = ready.put location (.file []) := by
  obtain ⟨ready, opened, prepared⟩ := createStore_eq_ok files made path location created
  have still : ready.entryAt location = none := by
    cases held : ready.entryAt location with
    | none => rfl
    | some found =>
        have new := prepared.kind_of_new absent held
        rcases create_eq_ok ready made path location opened with ⟨kind, device, -⟩ | ⟨spares, -, -⟩
        · rw [device, Option.some.injEq] at held
          subst held
          cases new
        · have old := (spares found held).1
          rw [new] at old
          cases old
  have resolved := resolve_of_create ready made path location opened
  refine ⟨ready, prepared, resolve_vacant ready true path location resolved still, ?_⟩
  rcases create_eq_ok ready made path location opened with ⟨kind, device, -⟩ | ⟨-, same, -⟩
  · rw [still] at device
    cases device
  · exact same

theorem entryAt_of_createStore_of_absent (files made : FileSystem) (path : String)
    (location : Location) (created : files.createStore path = .ok (location, made))
    (absent : files.entryAt location = none) : made.entryAt location = some (.file []) := by
  obtain ⟨ready, -, vacant, rfl⟩ := createStore_of_absent files made path location created absent
  obtain ⟨above, name, entries, rfl, -, directory⟩ := vacant.above
  exact entryFrom_placed (.file []) ready.root above name entries directory

/-- The walk below a directory gains the store that is made there. -/
theorem createStore_gains (files made : FileSystem) (path : String) (place names : Location)
    (entries : Listing) (created : files.createStore path = .ok (place ++ names, made))
    (absent : files.entryAt (place ++ names) = none)
    (directory : files.entryAt place = some (.directory entries)) :
    KeepsKinds files made ∧ ∃ others, made.entryAt place = some (.directory others) ∧
      ∀ rules base, Gains (arrivals rules (.file []) base [] names)
        (filesBelow rules base [] entries) (filesBelow rules base [] others) := by
  obtain ⟨ready, prepared, vacant, rfl⟩ :=
    createStore_of_absent files made path (place ++ names) created absent
  have keeps := prepared.keepsWalk place
  obtain ⟨middle, there, agrees⟩ := keeps.walk entries directory
  obtain ⟨others, present, gains⟩ :=
    gains_put_below ready place names (.file []) middle there vacant
  refine ⟨keeps.toKeepsKinds.trans (keepsKinds_put ready _ _ (vacant.spares _)), others, present,
    ?_⟩
  exact fun rules base => (gains rules base).of_agrees (agrees rules base)

/-- What is gained below a directory is gained by the walk of the run whose root it is. -/
theorem KeepsKinds.gains_treeAt {place : Location} {before after : FileSystem}
    (keeps : KeepsKinds before after) (root : PathName) (entries others : Listing)
    (found : before.find root = .ok (place, .directory entries))
    (there : after.entryAt place = some (.directory others)) (rules : Exclusion)
    (more : List Found)
    (gains : Gains more (filesBelow rules root [] entries) (filesBelow rules root [] others)) :
    Gains more ((before.treeAt root).traversal rules root)
      ((after.treeAt root).traversal rules root) := by
  obtain ⟨resolved, held⟩ := (find_eq_ok before root place _).mp found
  have led := keeps.resolve true root place _ resolved held
  have foundAfter := (find_eq_ok after root place _).mpr ⟨led, there⟩
  rw [FileSystem.treeAt, FileSystem.treeAt, found, foundAfter]
  simp only [treeOf]
  split
  · exact gains
  · intro whole
    cases whole

/-- A walk that ends well after the store is made gives what it would have given before. -/
theorem KeepsWalk.treeAt {place : Location} {before after : FileSystem}
    (keeps : KeepsWalk place before after) (root : PathName) (entries : Listing)
    (found : before.find root = .ok (place, .directory entries)) (rules : Exclusion) :
    AgreesIfWhole ((before.treeAt root).traversal rules root)
      ((after.treeAt root).traversal rules root) := by
  obtain ⟨others, there, agrees⟩ :=
    keeps.walk entries ((find_eq_ok before root place _).mp found).2
  rw [← Harvest.gains_nil_iff]
  exact keeps.toKeepsKinds.gains_treeAt root entries others found there rules []
    ((Harvest.gains_nil_iff _ _).mpr (agrees rules root))

end FileSystem

end SourceIndex
