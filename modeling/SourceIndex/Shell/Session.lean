import SourceIndex.Command
import SourceIndex.Shell.Arithmetic
import SourceIndex.Shell.Reader
import SourceIndex.Shell.Tool

set_option autoImplicit false

namespace SourceIndex.Shell

/-- Where bytes go. -/
inductive Sink where
  | buffer (index : Nat)
  | file (place : Location)
  | nowhere
  | full
  | closed
deriving DecidableEq, Repr, Inhabited

structure Streams where
  /-- The input that is read, if there is one. -/
  input : Option Nat
  sinks : List (Nat × Sink)
deriving DecidableEq, Repr, Inhabited

/-- What is undone when a script that ran apart ends. -/
structure Scope where
  name : String
  args : List String
  bindings : List (String × String)
  /-- The variables that processes started from here see. -/
  exported : List String
  streams : Streams
  strict : Bool
  process : Nat
  workingDirectory : Location
deriving DecidableEq, Repr, Inhabited

structure Session where
  scope : Scope
  files : FileSystem
  status : Nat := 0
  /-- The status is an answer to a question, and no reason to stop. -/
  excused : Bool := false
  /-- What was written to each buffer, backwards. -/
  buffers : Array (List UInt8) := #[[], []]
  /-- What is left of each input. -/
  inputs : Array (List UInt8) := #[]
  /-- The time that has passed, in milliseconds; none if it will not end. -/
  elapsed : Option Nat := some 0
  ended : Option Exit := none
deriving Inhabited

namespace Session

/-- The files, as they are seen from the directory that the script is in. -/
def system (session : Session) : FileSystem :=
  { session.files with workingDirectory := session.scope.workingDirectory }

def sink (session : Session) (stream : Nat) : Sink :=
  ((session.scope.streams.sinks.find? fun (number, _) => number == stream).map (·.2)).getD .closed

def write (session : Session) (stream : Nat) (bytes : List UInt8) : Session × Bool :=
  if bytes.isEmpty then (session, true)
  else match session.sink stream with
    | .buffer index =>
      let buffers := session.buffers.modify index (bytes.reverseAux ·)
      ({ session with buffers }, true)
    | .file place =>
      let content := match session.files.entryAt place with
        | some (.file content) => content
        | _ => []
      ({ session with files := session.files.put place (.file (content ++ bytes)) }, true)
    | .nowhere => (session, true)
    | .full => (session, false)
    | .closed => (session, false)

def complain (session : Session) (text : String) : Session :=
  (session.write 2 (toBytes text)).1

/-- A complaint of the script itself, with its name and a line. -/
def complainAt (session : Session) (line : Nat) (text : String) : Session :=
  session.complain (session.scope.name ++ ": " ++ toString line ++ ": " ++ text ++ "\n")

def unread (session : Session) : List UInt8 :=
  (session.scope.streams.input.bind fun index => session.inputs[index]?).getD []

def leave (session : Session) (left : List UInt8) : Session :=
  match session.scope.streams.input with
  | some index => { session with inputs := session.inputs.modify index fun _ => left }
  | none => session

def withInput (session : Session) (bytes : List UInt8) : Session :=
  let index := session.inputs.size
  { session with
    inputs := session.inputs.push bytes
    scope := { session.scope with
      streams := { session.scope.streams with input := some index } } }

def withSink (session : Session) (stream : Nat) (sink : Sink) : Session :=
  { session with scope := { session.scope with
      streams := { session.scope.streams with
        sinks := (stream, sink) :: session.scope.streams.sinks.filter (·.1 != stream) } } }

/-- Sends the output to a new buffer, and gives its number. -/
def collecting (session : Session) : Session × Nat :=
  let index := session.buffers.size
  ({ session with buffers := session.buffers.push [] }.withSink 1 (.buffer index), index)

def collected (session : Session) (index : Nat) : List UInt8 :=
  (session.buffers.getD index []).reverse

def wait (session : Session) (pause : Option Nat) : Session :=
  { session with elapsed := do return (← session.elapsed) + (← pause) }

def valueOf? (session : Session) (name : String) : Option String :=
  (session.scope.bindings.find? fun (other, _) => other == name).map (·.2)

def assign (session : Session) (name value : String) : Session :=
  { session with scope := { session.scope with
      bindings := (name, value) :: session.scope.bindings.filter (·.1 != name) } }

def unset (session : Session) (name : String) : Session :=
  { session with scope := { session.scope with
      bindings := session.scope.bindings.filter (·.1 != name)
      exported := session.scope.exported.filter (· != name) } }

def exporting (session : Session) (name : String) : Session :=
  { session with scope := { session.scope with
      exported := name :: session.scope.exported.filter (· != name) } }

def restore (session : Session) (name : String) (value : Option String) : Session :=
  match value with
  | some value => session.assign name value
  | none => session.unset name

def parameter? (session : Session) (name : String) : Option String :=
  match name with
  | "#" => some (toString session.scope.args.length)
  | "?" => some (toString session.status)
  | "$" => some (toString session.scope.process)
  | "@" | "*" =>
    if session.scope.args.isEmpty then none else some (" ".intercalate session.scope.args)
  | "0" => some session.scope.name
  | _ =>
    match name.toNat? with
    | some (place + 1) => session.scope.args[place]?
    | _ => session.valueOf? name

def finished (session : Session) (status : Nat) : Session :=
  { session with status, excused := false }

def runTool (session : Session) (line : Nat) (name : String) (args : List String) (inner : Bool)
    (tool : ToolCall → ToolResult) : Session :=
  let result := tool ⟨name, args, session.unread, session.system, inner⟩
  let session := { session.leave result.left with files := result.files }
  let (session, taken) := session.write 1 result.output
  let session :=
    if result.complaint.isEmpty then session
    else if inner then
      session.complain (session.scope.name ++ ": " ++ toString line ++ ": " ++ result.complaint)
    else session.complain result.complaint
  let session :=
    if taken then session
    else if inner then session.complainAt line (name ++ ": " ++ name ++ ": I/O error")
    else session.complain (name ++ ": write error: No space left on device\n")
  (session.wait result.pause).finished (if taken then result.status else 1)

end Session

end SourceIndex.Shell
