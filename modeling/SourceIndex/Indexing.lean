import SourceIndex.Config
import SourceIndex.Extraction
import SourceIndex.Report
import SourceIndex.Store
import SourceIndex.Walk

/-
An indexing run: the files of a tree are cut into chunks, and the chunks are written to the store.
A fault of one file costs that file; a fault of the walk or of the store ends the run.
-/

set_option autoImplicit false

namespace SourceIndex

/-- How a text is parsed. -/
abbrev SyntaxParser := Language → List Char → Node

/-- What the system tells of a file that is to be read. -/
inductive FileReading where
  | content (bytes : List UInt8)
  /-- The size is known, but the file may not be read. -/
  | refused (size : Nat) (reason : String)
  /-- Not even the size is known. -/
  | unseen (reason : String)
deriving DecidableEq, Repr, Inhabited

/-- A file as it is when its turn comes. -/
structure SourceFile where
  path : PathName
  reading : FileReading
deriving DecidableEq, Repr, Inhabited

namespace SourceFile

def shown (file : SourceFile) : String := PathName.display file.path

def readFailed (file : SourceFile) (reason : String) : Failure :=
  .indexing (.fileReadFailed file.shown reason)

def tooLarge (file : SourceFile) (size limit : Nat) : Failure :=
  .indexing (.fileTooLarge file.shown size limit)

end SourceFile

/-- A run between two files. -/
structure IndexRun where
  writer : StoreWriter StoreFile
  report : IndexReport := {}
deriving Inhabited

namespace IndexRun

def begun (stream : StoreFile) (target : String) : IndexRun where
  writer := { stream, target }
  report := { outputPath := target }

def rules (config : IndexingConfig) : Exclusion := ⟨config.excludePatterns, config.excludeDirs⟩

/-- The chunks of one file, which must be not too large and readable, and must parse. -/
def extract (parse : SyntaxParser) (config : IndexingConfig) (language : Language)
    (file : SourceFile) : Except Failure Extraction :=
  match file.reading with
  | .unseen reason => .error (file.readFailed reason)
  | .refused size reason =>
    .error (if config.maxFileSize < size then file.tooLarge size config.maxFileSize
      else file.readFailed reason)
  | .content bytes =>
    if config.maxFileSize < bytes.length then
      .error (file.tooLarge bytes.length config.maxFileSize)
    else
      match Extraction.ofText parse language config.allowPartialParse file.shown
          (Text.decodeLossy bytes) with
      | .ok extraction => .ok extraction
      | .error fault => .error (.chunking (.parseFailed file.shown fault.message))

def skip (run : IndexRun) : IndexRun :=
  { run with report := { run.report with filesSkipped := run.report.filesSkipped + 1 } }

def note (run : IndexRun) (failure : Failure) : IndexRun :=
  { run with report := { run.report with errors := run.report.errors ++ [failure.message] } }

def count (run : IndexRun) (dropped : Nat) : IndexRun :=
  { run with report := { run.report with
      filesIndexed := run.report.filesIndexed + 1
      emptyChunksDropped := run.report.emptyChunksDropped + dropped } }

def visit (parse : SyntaxParser) (config : IndexingConfig) (run : IndexRun) (file : SourceFile) :
    IndexRun × Option Failure :=
  if (rules config).skips file.path then (run.skip, none)
  else match Language.ofPath? file.path with
    | none => (run.skip, none)
    | some language =>
      match extract parse config language file with
      | .ok extraction =>
        match run.writer.writeAll extraction.chunks with
        | (writer, none) => ({ run with writer }.count extraction.dropped, none)
        | (writer, some cause) => ({ run with writer }, some (.indexing cause))
      | .error failure =>
        if failure.isFatal then (run, some failure) else (run.skip.note failure, none)

end IndexRun

namespace FileSystem

/-- The root of a run must be a directory, links followed. -/
def checkRoot (files : FileSystem) (root : PathName) : Except Failure Unit :=
  match files.find root with
  | .ok (_, entry) =>
    if entry.isDirectory then .ok ()
    else .error (.indexing (.notADirectory (PathName.display root)))
  | .error _ => .error (.indexing (.directoryNotFound (PathName.display root)))

/-- Makes the store, empty, and the directories that it lies in. -/
def createStore (files : FileSystem) (path : String) :
    Except Failure (Location × FileSystem) :=
  let made := do
    let files ← match parent? path with
      | some above => files.makeAll above
      | none => pure files
    files.create path
  match made with
  | .ok made => .ok made
  | .error fault => .error (.indexing (.writeFailed path fault.message))

/-- Keeps what a store has received. -/
def keep (files : FileSystem) (location : Location) (received : List UInt8) : FileSystem :=
  match files.entryAt location with
  | some (.device _) => files
  | _ => files.put location (.file received)

/-- What is written at a place, where the disk itself behaves like `disk`. -/
def opened (files : FileSystem) (location : Location) (disk : Stream) : StoreFile :=
  match files.entryAt location with
  | some (.device .null) => { disk := {} }
  | some (.device .full) => { disk := { room := some 0, refusal := PathFault.noSpace.message } }
  | _ => { disk := { disk with backwards := [] } }

/-- What the system tells of a path at which this entry is held. -/
def readingOf (path : PathName) (held : Option Entry) : FileReading :=
  if !fits path then .unseen PathFault.nameTooLong.message
  else match held with
    | some (.file content) => .content content
    | some (.closedFile size) => .refused size PathFault.denied.message
    | _ => .unseen PathFault.missing.message

/-- A file that a walk has found, as it is now. The walk has begun at the place `base`. -/
def meet (files : FileSystem) (base : Location) (found : Found) : SourceFile :=
  ⟨found.path, readingOf found.path (files.entryAt (base ++ found.place))⟩

end FileSystem

/-- Where a run is at work: the files, its store among them, and the places of its root and of the
store. -/
structure Site where
  files : FileSystem
  base : Location
  store : Location

namespace Site

/-- The files between two visits. The store holds what it has received by then. -/
def now (site : Site) (run : IndexRun) : FileSystem :=
  site.files.keep site.store run.writer.stream.received

/-- Visits a file that the walk has found, which is read now. -/
def visit (parse : SyntaxParser) (config : IndexingConfig) (site : Site) (run : IndexRun)
    (found : Found) : IndexRun × Option Failure :=
  run.visit parse config ((site.now run).meet site.base found)

/-- Visits all files below a root, from a run that has begun. -/
def visitAll (parse : SyntaxParser) (config : IndexingConfig) (site : Site) (root : PathName)
    (run : IndexRun) : IndexRun × Option Failure :=
  (Walk.ofTree (IndexRun.rules config) root (site.files.treeAt root)).visitAll .indexing
    (site.visit parse config) run

end Site

namespace FileSystem

def siteOf (files : FileSystem) (root : PathName) (store : Location) : Site where
  files
  base := match files.find root with
    | .ok (place, _) => place
    | .error _ => []
  store

/-- Runs over the tree below `root`. The store is made before the walk begins, so it lies in the
tree if it is below the root, and what was written before a failure is kept. -/
def index (parse : SyntaxParser) (disk : Stream) (files : FileSystem) (config : IndexingConfig)
    (root : PathName) : Except Failure IndexReport × FileSystem :=
  match files.checkRoot root with
  | .error failure => (.error failure, files)
  | .ok () =>
    match files.createStore config.outputPath with
    | .error failure => (.error failure, files)
    | .ok (location, files) =>
      let begun := IndexRun.begun (files.opened location disk) config.outputPath
      let (run, outcome) := (files.siteOf root location).visitAll parse config root begun
      let (writer, closed) := run.writer.finish
      let files := files.keep location writer.stream.received
      match outcome, closed with
      | some failure, _ => (.error failure, files)
      | none, some cause => (.error (.indexing cause), files)
      | none, none => (.ok { run.report with chunksWritten := run.writer.written }, files)

end FileSystem

end SourceIndex
