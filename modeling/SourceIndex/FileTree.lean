import SourceIndex.PathName

set_option autoImplicit false

namespace SourceIndex

/-- Why the system refuses a path. -/
inductive PathFault where
  | missing
  | denied
  | alreadyThere
  | notADirectory
  | isADirectory
  | noSpace
  | nameTooLong
  | tooManyLinks
  | notText
  | wholeTree
deriving DecidableEq, Repr, Inhabited

def PathFault.message : PathFault → String
  | missing => "No such file or directory (os error 2)"
  | denied => "Permission denied (os error 13)"
  | alreadyThere => "File exists (os error 17)"
  | notADirectory => "Not a directory (os error 20)"
  | isADirectory => "Is a directory (os error 21)"
  | noSpace => "No space left on device (os error 28)"
  | nameTooLong => "File name too long (os error 36)"
  | tooManyLinks => "Too many levels of symbolic links (os error 40)"
  | notText => "stream did not contain valid UTF-8"
  | wholeTree => "failed to create whole tree"

inductive Device where
  /-- Takes all and holds nothing. -/
  | null
  /-- Takes nothing. -/
  | full
deriving DecidableEq, Repr, Inhabited

inductive Entry where
  | file (content : List UInt8)
  | directory (entries : List (PathName × Entry))
  | link (target : PathName)
  | device (kind : Device)
  /-- A file that may be neither read nor written, of so many bytes. -/
  | closedFile (size : Nat)
  /-- A directory that may be neither listed nor entered. -/
  | closedDirectory
deriving Inhabited

abbrev Listing := List (PathName × Entry)

namespace Entry

def empty : Entry := .directory []

/-- A directory whose names are texts. -/
def folder (entries : List (String × Entry)) : Entry :=
  .directory (entries.map fun (name, entry) => (Text.encode name, entry))

def isDirectory : Entry → Bool
  | directory _ => true
  | closedDirectory => true
  | _ => false

end Entry

namespace Listing

def get? (listing : Listing) (name : PathName) : Option Entry :=
  (listing.find? fun entry => entry.1 == name).map (·.2)

/-- Puts an entry in the place of the one with its name, or at the end. -/
def put (name : PathName) (entry : Entry) : Listing → Listing
  | [] => [(name, entry)]
  | (other, held) :: later =>
    if other == name then (name, entry) :: later else (other, held) :: put name entry later

def erase (listing : Listing) (name : PathName) : Listing :=
  listing.filter fun entry => entry.1 != name

end Listing

/-- A place in the tree, as the names on the way to it from the root. -/
abbrev Location := List PathName

/-- A file system: its tree, and the directory that paths start from. -/
structure FileSystem where
  root : Entry
  workingDirectory : Location
deriving Inhabited

namespace FileSystem

/-- The most bytes of a path, and of a name in it. -/
def pathLimit : Nat := 4095

def nameLimit : Nat := 255

def linkLimit : Nat := 40

def fits (path : PathName) : Bool := path.length ≤ pathLimit

def entryFrom : Entry → Location → Option Entry
  | entry, [] => some entry
  | .directory entries, name :: names =>
    match Listing.get? entries name with
    | some entry => entryFrom entry names
    | none => none
  | _, _ :: _ => none

def entryAt (files : FileSystem) (location : Location) : Option Entry :=
  entryFrom files.root location

/-- Changes the entry at a place; `none` stands for no entry. -/
def alterFrom (change : Option Entry → Option Entry) : Entry → Location → Entry
  | entry, [] => (change (some entry)).getD entry
  | .directory entries, [name] =>
    match change (Listing.get? entries name) with
    | some entry => .directory (Listing.put name entry entries)
    | none => .directory (Listing.erase entries name)
  | .directory entries, name :: names =>
    match Listing.get? entries name with
    | some entry => .directory (Listing.put name (alterFrom change entry names) entries)
    | none => .directory entries
  | entry, _ :: _ => entry

def alter (files : FileSystem) (location : Location) (change : Option Entry → Option Entry) :
    FileSystem :=
  { files with root := alterFrom change files.root location }

def put (files : FileSystem) (location : Location) (entry : Entry) : FileSystem :=
  files.alter location fun _ => some entry

def parts (path : PathName) : List PathName := Text.pieces PathName.slash path

/-- Follows the parts of a path from a place. A link at the end is followed only if `follow`. The
place found need not hold an entry, but the directory it would be in does. Of the two bounds, one
is on the links followed, and one on the steps. -/
def resolveFrom (files : FileSystem) (follow : Bool) :
    Nat → Nat → Location → List PathName → Except PathFault Location
  | 0, _, _, _ => .error .tooManyLinks
  | _ + 1, _, here, [] => .ok here
  | fuel + 1, links, here, part :: later =>
    match files.entryAt here with
    | none => .error .missing
    | some (.directory entries) =>
      if part.isEmpty || part == [PathName.dot] then
        resolveFrom files follow fuel links here later
      else if part == [PathName.dot, PathName.dot] then
        resolveFrom files follow fuel links here.dropLast later
      else if nameLimit < part.length then .error .nameTooLong
      else match Listing.get? entries part with
        | none => if later.isEmpty then .ok (here ++ [part]) else .error .missing
        | some (.link target) =>
          if later.isEmpty && !follow then .ok (here ++ [part])
          else match links with
            | 0 => .error .tooManyLinks
            | links + 1 =>
              let start := if PathName.isAbsolute target then [] else here
              resolveFrom files follow fuel links start (parts target ++ later)
        | some _ => resolveFrom files follow fuel links (here ++ [part]) later
    | some .closedDirectory =>
      -- Slashes at the end ask for a directory, and not to enter it.
      if part.isEmpty then resolveFrom files follow fuel links here later else .error .denied
    | some _ => .error .notADirectory

/-- The place that a path leads to. -/
def resolve (files : FileSystem) (follow : Bool) (path : PathName) : Except PathFault Location :=
  if path.isEmpty then .error .missing
  else if !fits path then .error .nameTooLong
  else
    let start := if PathName.isAbsolute path then [] else files.workingDirectory
    files.resolveFrom follow (linkLimit * (pathLimit + 2)) linkLimit start (parts path)

/-- The entry that a path leads to, links followed. -/
def find (files : FileSystem) (path : PathName) : Except PathFault (Location × Entry) := do
  let location ← files.resolve true path
  match files.entryAt location with
  | some entry => return (location, entry)
  | none => throw .missing

def isDirectory (files : FileSystem) (path : PathName) : Bool :=
  match files.find path with
  | .ok (_, entry) => entry.isDirectory
  | .error _ => false

def holds (files : FileSystem) (path : PathName) : Bool := (files.find path).toOption.isSome

def read (files : FileSystem) (path : PathName) : Except PathFault (List UInt8) := do
  match (← files.find path).2 with
  | .file content => return content
  | .device _ => return []
  | .closedFile _ | .closedDirectory => throw .denied
  | _ => throw .isADirectory

def makeDirectory (files : FileSystem) (path : PathName) : Except PathFault FileSystem := do
  let location ← files.resolve false path
  match files.entryAt location with
  | some _ => throw .alreadyThere
  | none => return files.put location .empty

/-- The path without its last part; an empty path and the root have none. -/
def parent? (path : PathName) : Option PathName :=
  let slash := PathName.slash
  let trimEnd (path : PathName) : PathName :=
    let bare := (path.reverse.dropWhile (· == slash)).reverse
    if bare.isEmpty && !path.isEmpty then [slash] else bare
  let rec trimDots (fuel : Nat) (path : PathName) : PathName :=
    match fuel with
    | 0 => path
    | fuel + 1 =>
      let bare := trimEnd path
      if [slash, PathName.dot].isSuffixOf bare then trimDots fuel (bare.take (bare.length - 1))
      else bare
  let whole := trimDots path.length path
  if whole.isEmpty || whole == [slash] then none
  else
    let name := Text.lastPiece slash whole
    some (trimDots path.length (whole.take (whole.length - name.length)))

/-- Makes a directory and those above it. What is there already is left as it is. -/
def makeDirectories : Nat → FileSystem → PathName → Except PathFault FileSystem
  | 0, _, _ => .error .wholeTree
  | fuel + 1, files, path =>
    if path.isEmpty then .ok files
    else match files.makeDirectory path with
      | .ok files => .ok files
      | .error .missing =>
        match parent? path with
        | none => .error .wholeTree
        | some above => do
          let files ← makeDirectories fuel files above
          match files.makeDirectory path with
          | .ok files => .ok files
          | .error fault => if files.isDirectory path then .ok files else .error fault
      | .error fault => if files.isDirectory path then .ok files else .error fault

def makeAll (files : FileSystem) (path : PathName) : Except PathFault FileSystem :=
  makeDirectories (path.length + 1) files path

/-- Opens a file for writing: it is made if it is not there, and emptied if it is. -/
def create (files : FileSystem) (path : PathName) :
    Except PathFault (Location × FileSystem) := do
  if path.getLast? == some PathName.slash then
    match files.resolve true path with
    | .ok _ => throw .isADirectory
    | .error .notADirectory => throw .notADirectory
    | .error fault => throw (if fault == .missing then .isADirectory else fault)
  let location ← files.resolve true path
  match files.entryAt location with
  | some (.directory _) | some .closedDirectory => throw .isADirectory
  | some (.closedFile _) => throw .denied
  | some (.device _) => return (location, files)
  | _ => return (location, files.put location (.file []))

/-- Writes a file below directories that are made for it. -/
def write (files : FileSystem) (path : PathName) (content : List UInt8) :
    Except PathFault FileSystem := do
  let files ← match parent? path with
    | some above => files.makeAll above
    | none => pure files
  let (location, files) ← files.create path
  return files.put location (.file content)

def link (files : FileSystem) (path target : PathName) : Except PathFault FileSystem := do
  let files ← match parent? path with
    | some above => files.makeAll above
    | none => pure files
  return files.put (← files.resolve false path) (.link target)

/-- Removes what a path leads to, a link itself and not what it leads to. -/
def remove (files : FileSystem) (path : PathName) : Except PathFault FileSystem := do
  return files.alter (← files.resolve false path) fun _ => none

end FileSystem

end SourceIndex
