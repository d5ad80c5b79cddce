import SourceIndex.Proofs.Indexing.RecordOrder

set_option autoImplicit false

namespace SourceIndex

/-- What a run makes known: its counts, its errors, and the records in its store. -/
structure IndexOutcome where
  indexed : Nat
  skipped : Nat
  errors : List String
  records : List Chunk

namespace IndexOutcome

/-- A report and a store tell of the outcome. -/
structure ToldBy (outcome : IndexOutcome) (report : IndexReport) (after : FileSystem)
    (location : Location) : Prop where
  indexed : report.filesIndexed = outcome.indexed
  skipped : report.filesSkipped = outcome.skipped
  errors : report.errors = outcome.errors
  written : report.chunksWritten = outcome.records.length
  stored : FileSystem.Stores after location (Store.bytes outcome.records)

end IndexOutcome

namespace IndexRun

variable (parse : SyntaxParser) (config : IndexingConfig)

/-- The outcome of a run that has gone over these files. -/
def outcomeOf (seen : List SourceFile) : IndexOutcome where
  indexed := (seen.filterMap (accepted? parse config)).length
  skipped := seen.countP fun file => (accepted? parse config file).isNone
  errors := (seen.filterMap (complaint? parse config)).map Failure.message
  records := chunksOf parse config seen

theorem indexed_add_skipped (seen : List SourceFile) :
    (outcomeOf parse config seen).indexed + (outcomeOf parse config seen).skipped =
      seen.length := by
  rw [List.length_eq_countP_add_countP fun file => (accepted? parse config file).isSome]
  simp only [outcomeOf, List.length_filterMap_eq_countP, Bool.not_eq_true,
    Option.isSome_eq_false_iff, Bool.decide_eq_true]

theorem toldBy_of_accounts (seen : List SourceFile) (report : IndexReport) (after : FileSystem)
    (location : Location)
    (accounts : FileSystem.Accounts parse config seen report after location) :
    (outcomeOf parse config seen).ToldBy report after location := by
  have all := indexed_add_skipped parse config seen
  have visited := accounts.visited
  have same : report.filesIndexed = (outcomeOf parse config seen).indexed := accounts.indexed
  exact ⟨same, by omega, accounts.errors, accounts.written, accounts.stored⟩

variable (front back : List SourceFile) (file : SourceFile)

end IndexRun

namespace FileSystem

open IndexRun (rules outcomeOf accepted? complaint?)

/-- What a run reads of its own store, once these records are written: the first of their bytes,
all but the few that lie in the buffer. -/
def OwnReading (path : PathName) (written : List Chunk) (file : SourceFile) : Prop :=
  ∃ kept, file = ⟨path, readingOf path (some (.file kept))⟩ ∧ kept <+: Store.bytes written ∧
    (Store.bytes written).length ≤ kept.length + StoreFile.capacity

/-- Two places for the store of a run over one directory, both of them empty: one below the
directory, and one elsewhere. -/
structure StoresApart (files : FileSystem) (root : PathName) (inner outer : String)
    (entries : Listing) (place names elsewhere : Location) : Prop where
  rooted : files.find root = .ok (place, .directory entries)
  inside : ∃ made, files.createStore inner = .ok (place ++ names, made)
  outside : ∃ made, files.createStore outer = .ok (elsewhere, made) ∧ ¬ place <+: elsewhere
  fresh : files.entryAt (place ++ names) = none ∧ files.entryAt elsewhere = none

theorem place_ne_of_mem_traversal {files : FileSystem} {root : PathName} {place names : Location}
    {entries : Listing} (rules : Exclusion) (named : files.root.wellNamed = true)
    (rooted : files.find root = .ok (place, .directory entries))
    (absent : files.entryAt (place ++ names) = none)
    (whole : ((files.treeAt root).traversal rules root).2 = none) (found : Found)
    (member : found ∈ ((files.treeAt root).traversal rules root).1) :
    place ++ found.place ≠ place ++ names := by
  have held := ((find_eq_ok files root place _).mp rooted).2
  have inside := wellNamed_of_entryFrom files.root _ place named held
  have tree : files.treeAt root = treeOf root [] (.directory entries) := by
    simp only [treeAt, rooted]
  rw [tree] at whole member
  rw [traversal_of_whole rules [] root entries whole] at member
  obtain ⟨name, later, inner, other, same, among, deeper⟩ :=
    held_of_mem_filesBelow rules root [] entries inside found member
  intro here
  rw [← List.append_cancel_left here, same, entryAt, entryFrom_append,
    show entryFrom files.root place = some _ from held, List.nil_append] at absent
  simp only [Option.bind_some, entryFrom, among, deeper, reduceCtorEq] at absent

section Inside

variable (parse : SyntaxParser) (disk : Stream) (config : IndexingConfig) {files made : FileSystem}
  {root : PathName} {entries : Listing} {place names : Location}
  (rooted : files.find root = .ok (place, .directory entries))
  (created : files.createStore config.outputPath = .ok (place ++ names, made))
  (absent : files.entryAt (place ++ names) = none)

include rooted created absent

/-- What a run reads of a new store, in which it has put the lines of these files. -/
theorem ownReading_now (path : PathName) (seen : List SourceFile) (run : IndexRun)
    (tallies : IndexRun.Tallies parse config (made.diskAt disk (place ++ names)) config.outputPath
      seen run)
    (room : (made.diskAt disk (place ++ names)).takes (IndexRun.linesOf parse config seen) = true) :
    OwnReading path (IndexRun.chunksOf parse config seen)
      (((made.siteOf root (place ++ names)).now run).meet (made.siteOf root (place ++ names)).base
        ⟨path, names⟩) := by
  have empty := entryAt_of_createStore_of_absent files made _ _ created absent
  obtain ⟨kept, received, begins, few⟩ := tallies.carries.received room
  rw [Stream.received, backwards_diskAt, List.reverse_nil, List.nil_append] at received
  refine ⟨kept, ?_, begins, few⟩
  rw [files.base_siteOf config root rooted created, meet, Site.now, siteOf, received,
    entryAt_keep made _ kept [] empty]

/-- A run whose store is new and below its root reads the files that were there, and the store
among them, unless it leaves out a directory on the way. -/
theorem seenAt_of_inside (named : files.root.wellNamed = true)
    (completes : made.Completes parse disk config root (place ++ names)) :
    ∃ front own back,
      (files.treeAt root).traversal (rules config) root = (front ++ back, none) ∧
      made.seenAt parse disk config root (place ++ names) =
        front.map (files.meet place) ++ own ++ back.map (files.meet place) ∧
      match wayTo? (rules config) root names with
      | none => own = []
      | some path => ∃ file, own = [file] ∧
          OwnReading path (IndexRun.chunksOf parse config (front.map (files.meet place))) file := by
  obtain ⟨keeps, others, there, gains⟩ := createStore_gains files made _ place names entries
    created absent ((find_eq_ok files root place _).mp rooted).2
  obtain ⟨whole, front, back, walked, more⟩ :=
    keeps.gains_treeAt root entries others rooted there (rules config) _
      (gains (rules config) root) completes.walked
  have apart := place_ne_of_mem_traversal (rules config) named rooted absent whole
  rw [walked] at apart
  -- Every file but the store is read as it was before.
  have alike (part : List Found) (among : ∀ found ∈ part, found ∈ front ++ back)
      (begun : IndexRun) :
      (made.siteOf root (place ++ names)).readings parse config begun part =
        part.map (files.meet place) :=
    Site.readings_eq_map parse config _ _ begun part fun run item member =>
      files.meet_now config root rooted created run item (apart item (among item member))
  have first := alike front fun found => List.mem_append_left back
  have last := alike back fun found => List.mem_append_right front
  have seen := congrArg ((made.siteOf root (place ++ names)).readings parse config
    (IndexRun.begun (made.opened (place ++ names) disk) config.outputPath)) more
  rw [Site.readings_append, Site.readings_append, last, first] at seen
  have room := completes.accepts.room
  rw [linesAt, show made.seenAt parse disk config root (place ++ names) = _ from seen,
    List.append_assoc, IndexRun.linesOf_append] at room
  have begun := IndexRun.tallies_begun parse config (made.diskAt disk (place ++ names))
    config.outputPath
  rw [← opened_eq] at begun
  refine ⟨front, _, back, Prod.ext walked whole, seen, ?_⟩
  rw [arrivals_file]
  cases wayTo? (rules config) root names with
  | none => rfl
  | some path =>
      have fits := Stream.takes_of_append room
      exact ⟨_, rfl, ownReading_now parse disk config rooted created absent path
        (front.map (files.meet place)) _ (begun.foldl fits) fits⟩

end Inside

variable {files : FileSystem} {root : PathName} {inner outer : String} {entries : Listing}
  {place names elsewhere : Location}

/-- Two runs with stores apart read the same files, and one of them its store as well, unless it
leaves out a directory on the way. -/
theorem StoresApart.seen
    (stores : StoresApart files root inner outer entries place names elsewhere)
    (named : files.root.wellNamed = true) (parse : SyntaxParser) (disk : Stream)
    (config : IndexingConfig) (after after' : FileSystem) (report report' : IndexReport)
    (run : files.index parse disk { config with outputPath := inner } root = (.ok report, after))
    (run' : files.index parse disk { config with outputPath := outer } root =
      (.ok report', after')) :
    ∃ front own back,
      (outcomeOf parse config (front ++ own ++ back)).ToldBy report after (place ++ names) ∧
      (outcomeOf parse config (front ++ back)).ToldBy report' after' elsewhere ∧
      match wayTo? (rules config) root names with
      | none => own = []
      | some path => ∃ file, own = [file] ∧
          OwnReading path (IndexRun.chunksOf parse config front) file := by
  obtain ⟨rooted, ⟨made, created⟩, ⟨made', created', outside⟩, absent, -⟩ := stores
  obtain ⟨-, completes, -, accounts⟩ := accounts_of_index run created
  obtain ⟨-, completes', -, accounts'⟩ := accounts_of_index run' created'
  have told := IndexRun.toldBy_of_accounts parse _ _ report after _ accounts
  have told' := IndexRun.toldBy_of_accounts parse _ _ report' after' _ accounts'
  obtain ⟨front, own, back, walked, seen, reading⟩ := seenAt_of_inside parse disk
    { config with outputPath := inner } rooted created absent named completes
  have same := (createStore_keepsWalk files made' outer elsewhere place created' outside).treeAt
    root entries rooted (rules config) completes'.walked
  have seen' := files.seenAt_of_outside parse disk { config with outputPath := outer } root rooted
    created' outside
  have walked' : made'.harvestAt { config with outputPath := outer } root =
      (front ++ back, none) := same.symm.trans walked
  rw [seen] at told
  rw [seen', walked', List.map_append] at told'
  exact ⟨_, own, _, told, told', reading⟩

end FileSystem

end SourceIndex
