import SourceIndex.Shell.Machine

set_option autoImplicit false

namespace SourceIndex.Shell

/-- The number of steps after which a script counts as one that never ends. -/
def stepLimit : Nat := 3000000

def argumentLimit : Nat := 131071

def holdsNul (text : String) : Bool := text.contains '\x00'

def received (text : String) : String := ofBytes (Text.encode text)

/-- The tool that a command names: by its path, or else by its name alone. -/
def toolNamed (files : FileSystem) (command : String) : Except PathFault String :=
  if command.contains '/' then Machine.toolAt files (received command)
  else if FileSystem.nameLimit < command.utf8ByteSize then .error .nameTooLong
  else if FileSystem.toolNames.contains command then .ok command
  else .error .missing

/-- Why a command cannot be started, or the tool that it is. -/
def started (files : FileSystem) (call : CommandCall) : Except String String :=
  if holdsNul call.command || call.args.any holdsNul then
    .error "nul byte found in provided data"
  else match toolNamed files call.command with
    | .error fault => .error fault.message
    | .ok tool =>
      if call.args.any fun arg => argumentLimit < arg.utf8ByteSize then
        .error "Argument list too long (os error 7)"
      else .ok tool

def machineFor (files : FileSystem) (call : CommandCall) (tool : String) : Machine :=
  let command := received call.command
  let args := call.args.map received
  let scope : Scope := {
    name := command
    args := []
    bindings := [("PWD", shownPlace files.workingDirectory)]
    exported := ["PWD"]
    streams := ⟨call.input.map fun _ => 0, [(1, .buffer 0), (2, .buffer 1)]⟩
    strict := false
    process := 4000
    workingDirectory := files.workingDirectory }
  let session : Session := {
    scope, files
    inputs := (call.input.map fun bytes => #[bytes]).getD #[] }
  let machine : Machine := ⟨.finish, [], session⟩
  match tool with
  | "sh" | "dash" =>
    let inner := machine.interpret command args
    { inner with frames := inner.frames.filter fun
        | .apart _ _ => false
        | _ => true }
  | "env" => machine.runEnv 0 args
  | _ => machine.runTool 0 tool args false

def launch : Launcher FileSystem := fun call files =>
  match started files call with
  | .error reason => (.error (.notStarted reason), files)
  | .ok tool =>
    match (machineFor files call tool).runWithin call.limit stepLimit with
    | none => (.error .timedOut, files)
    | some (exit, session) =>
      (.ok ⟨exit, session.collected 0, session.collected 1⟩,
        { session.files with workingDirectory := files.workingDirectory })

end SourceIndex.Shell
