import SourceIndex.Config.Written
import SourceIndex.FileTree
import SourceIndex.Toml.Conform

set_option autoImplicit false

namespace SourceIndex

namespace Config

def ofText (text : String) : Except ConfigFailure Config :=
  match Toml.parseAs shape text with
  | .ok value =>
    match ofJson? value with
    | some config => .ok config
    | none => .error (.parseFailed "Invalid TOML: ")
  | .error report => .error (.parseFailed ("Invalid TOML: " ++ report))

def readFailed (fault : PathFault) : ConfigFailure :=
  .loadFailed ("Failed to read config file: " ++ fault.message)

def readText (files : FileSystem) (path : PathName) : Except ConfigFailure String :=
  match files.read path with
  | .error fault => .error (readFailed fault)
  | .ok bytes =>
    match Text.text? bytes with
    | some text => .ok text
    | none => .error (readFailed .notText)

/-- The settings of a file, which must be valid before the environment is looked at. -/
def fromFile (files : FileSystem) (path : PathName) : Except Failure Config :=
  if !files.holds path then .error (.config (.fileNotFound (PathName.display path)))
  else match readText files path with
    | .error cause => .error (.config cause)
    | .ok text =>
      match ofText text with
      | .error cause => .error (.config cause)
      | .ok config => config.validate.map fun _ => config

/-- The settings of the usual file, or the defaults if there is none. -/
def loadOrDefault (files : FileSystem) (environment : Environment) : Except Failure Config :=
  let path := defaultPath environment
  if files.holds path then fromFile files path else .ok {}

def load (files : FileSystem) (environment : Environment) (path : Option String) :
    Except Failure Config := do
  let config ← match path with
    | some path => fromFile files path
    | none => loadOrDefault files environment
  let config := config.override environment
  config.validate
  return config

end Config

end SourceIndex
