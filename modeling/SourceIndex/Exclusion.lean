import SourceIndex.PathName

set_option autoImplicit false

namespace SourceIndex

namespace Exclusion

/-- Fragments that exclude a file wherever they stand in its path. -/
def fragments : List String :=
  ["__tests__", ".test.", ".spec.", "/.git/", "/node_modules/", "/dist/", "/coverage/"]

/-- Endings of documents, data, lock files and snapshots. -/
def endings : List String := [".md", ".json", ".lock", ".snap"]

/-- Endings, compared in lower case, of names of declaration files and of build settings. -/
def nameEndings : List String := [".d.ts", ".config.js"]

def directoryNames : List String :=
  [".git", "node_modules", "dist", "coverage", "test", "__tests__"]

/-- Whether a file is left out by the built-in rules. Of the letters that occur in the endings,
none is the lower case of a character outside ASCII. -/
def skipsFile (path : PathName) : Bool :=
  let whole := PathName.normalized path
  let name := (Text.lastPiece '/' whole).map Char.toLower
  fragments.any (fun fragment => Text.hasInfix fragment.toList whole) ||
    endings.any (fun ending => ending.toList.isSuffixOf whole) ||
    nameEndings.any (fun ending => ending.toList.isSuffixOf name)

/-- The last segment of a path, with backslashes as separators and trailing ones ignored. -/
def lastSegment (path : PathName) : List Char :=
  let whole := PathName.normalized path
  Text.lastPiece '/' (whole.reverse.dropWhile (· == '/')).reverse

/-- Whether a directory is left out by the built-in rules. -/
def skipsDirectory (path : PathName) : Bool :=
  directoryNames.contains (String.ofList (lastSegment path))

end Exclusion

/-- The built-in rules with more patterns, which exclude a file wherever they stand in its path,
and more names of directories. -/
structure Exclusion where
  patterns : List String := []
  directories : List String := []
deriving DecidableEq, Repr, Inhabited

namespace Exclusion

def skips (rules : Exclusion) (path : PathName) : Bool :=
  skipsFile path ||
    rules.patterns.any fun pattern =>
      Text.hasInfix pattern.toList (PathName.normalized path)

def prunes (rules : Exclusion) (path : PathName) : Bool :=
  skipsDirectory path ||
    ((PathName.fileName? path).bind Text.text?).any rules.directories.contains

end Exclusion

end SourceIndex
