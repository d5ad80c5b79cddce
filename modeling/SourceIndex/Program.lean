import SourceIndex.Command
import SourceIndex.CommandLine
import SourceIndex.Config.Loading
import SourceIndex.Indexing

set_option autoImplicit false

namespace SourceIndex

structure ProgramResult where
  status : Nat
  output : String
  complaint : String
deriving DecidableEq, Repr, Inhabited

/-- A state of the world with files in it. -/
class HasFiles (σ : Type) where
  files : σ → FileSystem
  withFiles : FileSystem → σ → σ

instance : HasFiles FileSystem where
  files := id
  withFiles files _ := files

namespace Program

variable {σ : Type} [HasFiles σ]

/-- What the program needs from outside. -/
structure Setting (σ : Type) where
  parse : SyntaxParser
  launch : Launcher σ
  /-- The disk that a store is written to. -/
  disk : Stream := {}

def line (text : String) : String := text ++ "\n"

def showReport (asJson : Bool) (report : IndexReport) : String :=
  if asJson then line report.toJson.pretty else report.summary

def showAnswer (asJson promptOnly : Bool) (answer : Answer) : String :=
  if asJson then line answer.toJson.pretty
  else if promptOnly then line (Conversation.toJson answer.prompt).pretty
  else (answer.text.map line).getD ""

/-- Indexes with the store that the operator names, or else the one of the settings. -/
def runIndex (setting : Setting σ) (config : Config) (root : String) (output : Option String) :
    StateM σ (Except Failure IndexReport) := fun world =>
  let config := { config with
    indexing := { config.indexing with
      outputPath := output.getD config.indexing.outputPath } }
  match config.validate with
  | .error failure => (.error failure, world)
  | .ok () =>
    let (indexed, files) :=
      (HasFiles.files world).index setting.parse setting.disk config.indexing root
    (indexed, HasFiles.withFiles files world)

/-- Does what was asked for, and gives what is to be printed. -/
def perform (setting : Setting σ) (environment : Environment) (invocation : Invocation) :
    StateM σ (Except Failure String) := do
  match Config.load (HasFiles.files (← get)) environment invocation.config with
  | .error failure => return .error failure
  | .ok config =>
    match invocation.task with
    | .index root output =>
      return (← runIndex setting config root output).map (showReport invocation.asJson)
    | .ask words top promptOnly =>
      let query := " ".intercalate words
      let asked ← ask config (config.collaborators setting.launch) query top promptOnly
      return asked.result.map (showAnswer invocation.asJson promptOnly)

def succeeded : Nat := 0
def failed : Nat := 1
def misused : Nat := 2

/-- Runs a command line. One that is refused changes nothing. -/
def run (setting : Setting σ) (environment : Environment) (args : List String) :
    StateM σ (Except CommandLine.Refusal ProgramResult) := do
  match CommandLine.read environment args with
  | .error refusal => return .error refusal
  | .ok invocation =>
    match ← perform setting environment invocation with
    | .ok output => return .ok ⟨succeeded, output, ""⟩
    | .error failure =>
      return .ok ⟨if failure.isUserError then misused else failed, "",
        line ("error: " ++ failure.message)⟩

end Program

end SourceIndex
