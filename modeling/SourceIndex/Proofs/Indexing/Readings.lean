import SourceIndex.Proofs.Indexing.Tally
import SourceIndex.Proofs.Store.Creation

set_option autoImplicit false

namespace SourceIndex

namespace FileSystem

/-- A file is read as before when something with nothing below it is put at another place. -/
theorem readingOf_put (files : FileSystem) (location place : Location) (new : Entry)
    (leaf : ∀ name names, entryFrom new (name :: names) = none)
    (spares : Spares files.root location new) (elsewhere : place ≠ location) (path : PathName) :
    readingOf path ((files.put location new).entryAt place) =
      readingOf path (files.entryAt place) := by
  cases held : files.entryAt place with
  | none =>
      cases there : (files.put location new).entryAt place with
      | none => rfl
      | some found =>
          obtain ⟨_ | ⟨name, names⟩, same, inside⟩ :=
            entryFrom_of_placed new files.root found location place held there
          · exact absurd (same.trans (List.append_nil location)) elsewhere
          · rw [leaf] at inside
            cases inside
  | some found =>
      by_cases directory : found.kind = .directory
      · obtain ⟨other, there, kind⟩ := kind_placed spares held
        obtain ⟨entries, rfl⟩ := found.eq_directory directory
        obtain ⟨others, rfl⟩ := other.eq_directory kind
        rw [show (files.put location new).entryAt place = _ from there]
        rfl
      · rw [show (files.put location new).entryAt place = some found from
          entryFrom_placed_elsewhere spares held elsewhere directory]

/-- A new directory is read as the empty place was where it is made. -/
theorem readingOf_put_empty (files : FileSystem) (location place : Location)
    (vacant : Vacant files location) (path : PathName) :
    readingOf path ((files.put location .empty).entryAt place) =
      readingOf path (files.entryAt place) := by
  by_cases here : place = location
  · subst here
    obtain ⟨above, name, entries, rfl, -, directory⟩ := vacant.above
    rw [vacant.absent, show (files.put (above ++ [name]) .empty).entryAt (above ++ [name]) = _ from
      entryFrom_placed .empty files.root above name entries directory]
    rfl
  · exact readingOf_put files location place .empty (fun _ _ => rfl) (vacant.spares _) here path

theorem MakesDirectories.readingOf_eq {before after : FileSystem}
    (makes : MakesDirectories before after) (place : Location) (path : PathName) :
    readingOf path (after.entryAt place) = readingOf path (before.entryAt place) := by
  induction makes with
  | nothing => rfl
  | directory _ vacant ih => exact (readingOf_put_empty _ _ place vacant path).trans ih

variable {files made : FileSystem} {target : String} {location : Location}
  (created : files.createStore target = .ok (location, made))

include created

/-- A file is read as before once a store is made, unless it is the store. -/
theorem readingOf_of_createStore (place : Location) (elsewhere : place ≠ location)
    (path : PathName) :
    readingOf path (made.entryAt place) = readingOf path (files.entryAt place) := by
  obtain ⟨ready, opened, prepared⟩ := createStore_eq_ok files made target location created
  rw [← prepared.readingOf_eq place path]
  rcases create_eq_ok ready made target location opened with ⟨kind, -, rfl⟩ | ⟨spares, rfl, -⟩
  · rfl
  · exact readingOf_put ready location place (.file []) (fun _ _ => rfl) spares elsewhere path

/-- A file is read alike however much the store has received, unless it is the store. -/
theorem readingOf_keep (received : List UInt8) (place : Location) (elsewhere : place ≠ location)
    (path : PathName) :
    readingOf path ((made.keep location received).entryAt place) =
      readingOf path (made.entryAt place) := by
  by_cases device : ∃ kind, made.entryAt location = some (.device kind)
  · obtain ⟨kind, there⟩ := device
    simp only [keep, there]
  · have empty := entryAt_of_createStore files made target location created
      fun kind there => device ⟨kind, there⟩
    have spares : Spares made.root location (.file received) := by
      intro old held
      rw [entryAt, held, Option.some.injEq] at empty
      exact empty ▸ ⟨rfl, rfl⟩
    simp only [keep, empty]
    exact readingOf_put made location place _ (fun _ _ => rfl) spares elsewhere path

end FileSystem

namespace Site

variable (parse : SyntaxParser) (config : IndexingConfig) (site : Site)

/-- The files of a walk as a run reads them, each in its turn. -/
def readings : IndexRun → List Found → List SourceFile
  | _, [] => []
  | run, found :: later =>
    let file := (site.now run).meet site.base found
    file :: readings (run.visit parse config file).1 later

theorem visitEach_readings (run : IndexRun) (walked : List Found) :
    Walk.visitEach (site.visit parse config) run walked =
      Walk.visitEach (IndexRun.visit parse config) run (site.readings parse config run walked) := by
  induction walked generalizing run with
  | nil => rfl
  | cons found later ih =>
      simp only [readings, Walk.visitEach, visit]
      split
      · rfl
      · rename_i next visited
        rw [visited, ih]

theorem path_readings (run : IndexRun) (walked : List Found) :
    (site.readings parse config run walked).map (·.path) = walked.map (·.path) := by
  induction walked generalizing run with
  | nil => rfl
  | cons found later ih => simp only [readings, List.map_cons, ih, FileSystem.meet]

theorem readings_append (run : IndexRun) (first second : List Found) :
    site.readings parse config run (first ++ second) =
      site.readings parse config run first ++ site.readings parse config
        ((site.readings parse config run first).foldl
          (fun run file => (run.visit parse config file).1) run) second := by
  induction first generalizing run with
  | nil => rfl
  | cons found first ih => simp only [List.cons_append, readings, List.foldl_cons, ih]

/-- Files that do not change during the run are read in any order. -/
theorem readings_eq_map (read : Found → SourceFile) (run : IndexRun) (walked : List Found)
    (alike : ∀ run, ∀ found ∈ walked, (site.now run).meet site.base found = read found) :
    site.readings parse config run walked = walked.map read := by
  induction walked generalizing run with
  | nil => rfl
  | cons found later ih =>
      rw [readings, List.map_cons, alike run found List.mem_cons_self,
        ih _ fun run other member => alike run other (List.mem_cons_of_mem found member)]

end Site

end SourceIndex
