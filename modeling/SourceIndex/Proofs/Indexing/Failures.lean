import SourceIndex.Proofs.Indexing.Readings
import SourceIndex.Proofs.Walk.Reach

set_option autoImplicit false

namespace SourceIndex

namespace Tree

/-- Only directories that cannot be opened end a walk. Those files are given that stand before the
first of them. -/
theorem traversed_of_failure (rules : Exclusion) (root : PathName) (tree : Tree)
    (cause : IndexingFailure) (failed : (tree.traversal rules root).2 = some cause) :
    ∃ directory reason position located, cause = .walkFailed directory reason ∧
      Traversed rules root tree located (some (position, cause)) ∧
      (tree.traversal rules root).1 = located.map Prod.snd := by
  have traversed := traversed_locatedFrom rules root tree
  have forgotten := forget_locatedFrom rules root tree
  rw [← forgotten] at failed ⊢
  generalize locatedFrom rules root tree = part at traversed failed
  obtain ⟨items, stop⟩ := part
  obtain ⟨⟨position, same⟩, rfl, rfl⟩ := Option.map_eq_some_iff.mp failed
  obtain ⟨blocked, -⟩ := traversed.stopped position same rfl
  cases blocked with
  | entry reached kept => exact ⟨_, _, position, items, rfl, traversed, rfl⟩
  | closedRoot reason => exact ⟨_, _, [], items, rfl, traversed, rfl⟩
  | fileRoot place => exact ⟨_, _, [], items, rfl, traversed, rfl⟩
  | otherRoot => exact ⟨_, _, [], items, rfl, traversed, rfl⟩

end Tree

namespace FileSystem

variable (parse : SyntaxParser) (disk : Stream) (files : FileSystem) (config : IndexingConfig)
  (root : PathName)

/-- What the walk gives once the store is made. -/
def harvestAt : Harvest Found IndexingFailure :=
  (files.treeAt root).traversal (IndexRun.rules config) root

/-- The disk on which a store lies, which may be a device. -/
def diskAt (location : Location) : Stream := (files.opened location disk).disk

/-- The files of a run whose store is made, as the run reads them. -/
def seenAt (location : Location) : List SourceFile :=
  (files.siteOf root location).readings parse config
    (IndexRun.begun (files.opened location disk) config.outputPath) (files.harvestAt config root).1

/-- The lines of a run whose store is made. -/
def linesAt (location : Location) : List UInt8 :=
  IndexRun.linesOf parse config (files.seenAt parse disk config root location)

theorem opened_eq (location : Location) :
    files.opened location disk = { disk := files.diskAt disk location } := by
  simp only [diskAt, opened]
  split <;> rfl

theorem backwards_diskAt (location : Location) : (files.diskAt disk location).backwards = [] := by
  simp only [diskAt, opened]
  split <;> rfl

/-- What it takes for a run to succeed that has made its store: a walk that fails nowhere, room for
all lines, and a store that can be flushed and closed. -/
structure Completes (location : Location) : Prop where
  walked : (files.harvestAt config root).2 = none
  accepts : (files.diskAt disk location).Accepts (files.linesAt parse disk config root location)

/-- The ways in which a run ends: refused at its root, without a store, by a line that is not
written, where the walk fails, by a store that is not finished, or well. -/
inductive Ends : Except Failure IndexReport × FileSystem → Prop where
  | unrooted (failure : Failure) (refused : files.checkRoot root = .error failure) :
      Ends (.error failure, files)
  | storeless (failure : Failure) (rooted : files.checkRoot root = .ok ())
      (refused : files.createStore config.outputPath = .error failure) :
      Ends (.error failure, files)
  | unwritten (location : Location) (made after : FileSystem) (reason : String)
      (rooted : files.checkRoot root = .ok ())
      (created : files.createStore config.outputPath = .ok (location, made))
      (full : (made.diskAt disk location).takes (made.linesAt parse disk config root location) =
        false) :
      Ends (.error (.indexing (.writeFailed config.outputPath reason)), after)
  | unwalked (location : Location) (made : FileSystem) (cause : IndexingFailure)
      (rooted : files.checkRoot root = .ok ())
      (created : files.createStore config.outputPath = .ok (location, made))
      (failed : (made.harvestAt config root).2 = some cause) :
      Ends (.error (.indexing cause), made.keep location
        ((made.diskAt disk location).fitting (made.linesAt parse disk config root location)))
  | unfinished (location : Location) (made after : FileSystem) (reason : String)
      (rooted : files.checkRoot root = .ok ())
      (created : files.createStore config.outputPath = .ok (location, made))
      (refused : ¬ (made.diskAt disk location).Accepts
        (made.linesAt parse disk config root location)) :
      Ends (.error (.indexing (.writeFailed config.outputPath reason)), after)
  | whole (location : Location) (made : FileSystem) (last : IndexRun)
      (rooted : files.checkRoot root = .ok ())
      (created : files.createStore config.outputPath = .ok (location, made))
      (completes : made.Completes parse disk config root location)
      (tallies : IndexRun.Tallies parse config (made.diskAt disk location) config.outputPath
        (made.seenAt parse disk config root location) last) :
      Ends (.ok { last.report with chunksWritten := last.writer.written },
        made.keep location (made.linesAt parse disk config root location))

theorem visitAll_siteOf (location : Location) (run : IndexRun) :
    (files.siteOf root location).visitAll parse config root run =
      Walk.visitHarvest .indexing ((files.siteOf root location).visit parse config) run
        (files.harvestAt config root) := by
  rw [Site.visitAll, Walk.visitAll_ofTree]
  rfl

/-- A run that has made its store writes all lines, or is refused one of them. -/
theorem visitAll_cases (location : Location) :
    (∃ last, (files.siteOf root location).visitAll parse config root
          (IndexRun.begun (files.opened location disk) config.outputPath) =
        (last, (files.harvestAt config root).2.map .indexing) ∧
      IndexRun.Tallies parse config (files.diskAt disk location) config.outputPath
        (files.seenAt parse disk config root location) last) ∨
    ((files.diskAt disk location).takes (files.linesAt parse disk config root location) = false ∧
      ∃ last reason, (files.siteOf root location).visitAll parse config root
          (IndexRun.begun (files.opened location disk) config.outputPath) =
        (last, some (.indexing (.writeFailed config.outputPath reason)))) := by
  have begun := IndexRun.tallies_begun parse config (files.diskAt disk location) config.outputPath
  rw [← opened_eq] at begun
  rw [visitAll_siteOf, Walk.visitHarvest, Site.visitEach_readings]
  rcases begun.visitEach (files.seenAt parse disk config root location) with
    ⟨last, visited, tallies⟩ | ⟨full, last, refused⟩
  · rw [seenAt] at visited
    rw [visited]
    exact .inl ⟨last, rfl, tallies⟩
  · rw [seenAt] at refused
    rw [refused]
    exact .inr ⟨full, last, _, rfl⟩

theorem index_ends : Ends parse disk files config root (files.index parse disk config root) := by
  rw [index]
  cases rooted : files.checkRoot root with
  | error failure => exact .unrooted failure rooted
  | ok =>
      cases created : files.createStore config.outputPath with
      | error failure => exact .storeless failure rooted created
      | ok result =>
          obtain ⟨location, made⟩ := result
          dsimp only
          rcases made.visitAll_cases parse disk config root location with
            ⟨last, visited, tallies⟩ | ⟨full, last, reason, refused⟩
          · obtain ⟨received, finished, named⟩ := StoreWriter.finish_cases tallies.carries
            rw [visited]
            dsimp only
            rw [received, Stream.received, backwards_diskAt, List.reverse_nil, List.nil_append]
            cases walk : (made.harvestAt config root).2 with
            | some cause => exact .unwalked location made cause rooted created walk
            | none =>
                cases closed : last.writer.finish.2 with
                | some cause =>
                    obtain ⟨reason, rfl⟩ := named cause closed
                    rw [StoreWriter.failure, tallies.target]
                    refine .unfinished location made _ reason rooted created fun accepts => ?_
                    rw [finished.mpr accepts] at closed
                    cases closed
                | none =>
                    have accepts := finished.mp closed
                    have whole := Stream.fitting_of_takes accepts.room
                    rw [whole]
                    exact .whole location made last rooted created ⟨walk, accepts⟩ tallies
          · rw [refused]
            exact .unwritten location made _ reason rooted created full

theorem checkRoot_eq_error (failure : Failure) (refused : files.checkRoot root = .error failure) :
    failure = .indexing (.directoryNotFound (PathName.display root)) ∨
      failure = .indexing (.notADirectory (PathName.display root)) := by
  rw [checkRoot] at refused
  split at refused
  · split at refused
    · cases refused
    · cases refused
      exact .inr rfl
  · cases refused
    exact .inl rfl

theorem createStore_eq_error (path : String) (failure : Failure)
    (refused : files.createStore path = .error failure) :
    ∃ reason, failure = .indexing (.writeFailed path reason) := by
  rw [createStore] at refused
  split at refused
  · cases refused
  · cases refused
    exact ⟨_, rfl⟩

theorem exists_find_of_checkRoot (rooted : files.checkRoot root = .ok ()) :
    ∃ place entry, files.find root = .ok (place, entry) := by
  rw [checkRoot] at rooted
  split at rooted
  · rename_i place entry found
    exact ⟨place, entry, found⟩
  · cases rooted

theorem entryAt_keep (location : Location) (received content : List UInt8)
    (file : files.entryAt location = some (.file content)) :
    (files.keep location received).entryAt location = some (.file received) := by
  have below := entryFrom_placed_below (.file received) files.root _ location [] file
  rw [List.append_nil, placed_nil] at below
  simp only [keep, file]
  exact below

theorem diskAt_of_regular (location : Location)
    (regular : ∀ kind, files.entryAt location ≠ some (.device kind)) :
    files.diskAt disk location = { disk with backwards := [] } := by
  rw [diskAt, opened]
  split
  · rename_i null
    exact absurd null (regular .null)
  · rename_i full
    exact absurd full (regular .full)
  · rfl

theorem base_siteOf {made : FileSystem} {place location : Location} {entry : Entry}
    (found : files.find root = .ok (place, entry))
    (created : files.createStore config.outputPath = .ok (location, made)) :
    (made.siteOf root location).base = place := by
  obtain ⟨other, there, -⟩ :=
    (createStore_keepsKinds files made _ location created).find root place entry found
  simp only [siteOf, there]

theorem meet_now {made : FileSystem} {place location : Location} {entry : Entry}
    (found : files.find root = .ok (place, entry))
    (created : files.createStore config.outputPath = .ok (location, made)) (run : IndexRun)
    (item : Found) (elsewhere : place ++ item.place ≠ location) :
    ((made.siteOf root location).now run).meet (made.siteOf root location).base item =
      files.meet place item := by
  rw [files.base_siteOf config root found created]
  refine congrArg (SourceFile.mk item.path) ?_
  exact (readingOf_keep created _ _ elsewhere _).trans
    (readingOf_of_createStore created _ elsewhere _)

theorem seenAt_of_outside {made : FileSystem} {place location : Location} {entry : Entry}
    (found : files.find root = .ok (place, entry))
    (created : files.createStore config.outputPath = .ok (location, made))
    (outside : ¬ place <+: location) :
    made.seenAt parse disk config root location =
      (made.harvestAt config root).1.map (files.meet place) := by
  rw [seenAt]
  refine Site.readings_eq_map parse config _ _ _ _ fun run item _ => ?_
  exact files.meet_now config root found created run item fun same => outside ⟨item.place, same⟩

/-- A store elsewhere than below the root holds the lines of all files that stand before the
directory that could not be opened, as far as the disk takes them, unless it is a device. -/
def WrittenUpTo (directory reason : String) (after : FileSystem) : Prop :=
  ∃ place entry location made position located,
    files.find root = .ok (place, entry) ∧
    files.createStore config.outputPath = .ok (location, made) ∧
    Tree.Traversed (IndexRun.rules config) root (made.treeAt root) located
      (some (position, .walkFailed directory reason)) ∧
    (¬ place <+: location → (∀ kind, made.entryAt location ≠ some (.device kind)) →
      after.entryAt location = some (.file (disk.fitting (IndexRun.linesOf parse config
        ((located.map Prod.snd).map (files.meet place))))))

/-- A run fails for its root, which changes nothing, for its store, or for a directory that the
walk cannot open. -/
theorem failure_cases (failure : Failure) (after : FileSystem)
    (run : files.index parse disk config root = (.error failure, after)) :
    ((failure = .indexing (.directoryNotFound (PathName.display root)) ∨
        failure = .indexing (.notADirectory (PathName.display root))) ∧ after = files) ∨
      (∃ reason, failure = .indexing (.writeFailed config.outputPath reason)) ∨
      ∃ directory reason, failure = .indexing (.walkFailed directory reason) ∧
        files.WrittenUpTo parse disk config root directory reason after := by
  have ends := files.index_ends parse disk config root
  rw [run] at ends
  cases ends with
  | unrooted _ refused => exact .inl ⟨files.checkRoot_eq_error root failure refused, rfl⟩
  | storeless _ rooted refused =>
      exact .inr (.inl (files.createStore_eq_error config.outputPath failure refused))
  | unwritten location made _ reason rooted created full => exact .inr (.inl ⟨reason, rfl⟩)
  | unfinished location made _ reason rooted created refused => exact .inr (.inl ⟨reason, rfl⟩)
  | unwalked location made cause rooted created failed =>
      obtain ⟨place, entry, found⟩ := files.exists_find_of_checkRoot root rooted
      obtain ⟨directory, reason, position, located, rfl, traversed, given⟩ :=
        Tree.traversed_of_failure _ root (made.treeAt root) cause failed
      refine .inr (.inr ⟨directory, reason, rfl, place, entry, location, made, position, located,
        found, created, traversed, fun outside regular => ?_⟩)
      have empty := entryAt_of_createStore files made config.outputPath location created regular
      rw [entryAt_keep made location _ [] empty, made.diskAt_of_regular disk location regular,
        linesAt, files.seenAt_of_outside parse disk config root found created outside, harvestAt,
        given]
      rfl

theorem succeeds_iff :
    (∃ report after, files.index parse disk config root = (.ok report, after)) ↔
      ∃ location made, files.checkRoot root = .ok () ∧
        files.createStore config.outputPath = .ok (location, made) ∧
        made.Completes parse disk config root location := by
  have ends := files.index_ends parse disk config root
  constructor
  · rintro ⟨report, after, run⟩
    rw [run] at ends
    cases ends with
    | whole location made last rooted created completes tallies =>
        exact ⟨location, made, rooted, created, completes⟩
  · rintro ⟨location, made, rooted, created, completes⟩
    have same {location' : Location} {made' : FileSystem}
        (created' : files.createStore config.outputPath = .ok (location', made')) :
        location' = location ∧ made' = made := by
      rw [created, Except.ok.injEq, Prod.mk.injEq] at created'
      exact ⟨created'.1.symm, created'.2.symm⟩
    generalize files.index parse disk config root = outcome at ends
    cases ends with
    | unrooted failure refused =>
        rw [rooted] at refused
        cases refused
    | storeless failure _ refused =>
        rw [created] at refused
        cases refused
    | unwritten _ _ _ _ _ created' full =>
        obtain ⟨rfl, rfl⟩ := same created'
        rw [completes.accepts.room] at full
        cases full
    | unwalked _ _ _ _ created' failed =>
        obtain ⟨rfl, rfl⟩ := same created'
        rw [completes.walked] at failed
        cases failed
    | unfinished _ _ _ _ _ created' refused =>
        obtain ⟨rfl, rfl⟩ := same created'
        exact absurd completes.accepts refused
    | whole => exact ⟨_, _, rfl⟩

end FileSystem

end SourceIndex
