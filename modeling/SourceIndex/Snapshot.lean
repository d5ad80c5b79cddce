import SourceIndex.Json.Shape
import SourceIndex.Shell.System

/-
A tree of files as lines of JSON, one file a line, for a program that is given its files and gives
back those that it has written.
-/

set_option autoImplicit false

namespace SourceIndex

/-- A file with its path from the working directory. -/
structure FileRecord where
  path : String
  text : String
deriving DecidableEq, Repr, Inhabited

namespace FileRecord

def shape : Shape :=
  .record "FileRecord" <|
    .field "path" [] none .text <|
    .field "text" [] none .text
      .none

def toJson (record : FileRecord) : Json :=
  .object [("path", .string record.path), ("text", .string record.text)]

def ofLine (line : String) : Except String FileRecord :=
  match Json.parseAs shape line with
  | .ok (.object [(_, .string path), (_, .string text)]) => .ok ⟨path, text⟩
  | .ok _ => .error "expected a record"
  | .error fault => .error (fault.message line)

end FileRecord

namespace Snapshot

/-- The usual system with the files that the lines tell of. Blank lines tell of none. -/
def read (lines : List String) : Except String FileSystem :=
  (lines.filter (!Text.isBlankString ·)).foldlM
    (fun files line => do
      let record ← FileRecord.ofLine line
      match files.write record.path (Text.encode record.text) with
      | .ok files => return files
      | .error fault => throw (record.path ++ ": " ++ fault.message))
    FileSystem.standard

mutual

def filesBelow (path : PathName) : Entry → List (PathName × List UInt8)
  | .file content => [(path, content)]
  | .directory entries => filesAmong path entries
  | _ => []

def filesAmong (path : PathName) : List (PathName × Entry) → List (PathName × List UInt8)
  | [] => []
  | (name, entry) :: later =>
    filesBelow (PathName.join path name) entry ++ filesAmong path later

end

def contents (files : FileSystem) : List (PathName × List UInt8) :=
  match files.entryAt files.workingDirectory with
  | some entry => filesBelow [] entry
  | none => []

def changes (before after : FileSystem) : List FileRecord :=
  let known := contents before
  ((contents after).filter fun file => !known.contains file).map fun (path, content) =>
    ⟨PathName.display path, String.ofList (Text.decodeLossy content)⟩

end Snapshot

end SourceIndex
