import SourceIndex.Shell.Session
import SourceIndex.Shell.System

/-
Running scripts, one small step after another. What is still to be done is kept in frames, so a run
is cut off after any number of steps.
-/

set_option autoImplicit false

namespace SourceIndex.Shell

/-- Words being expanded to fields. -/
structure Expansion where
  /-- The words still to come, with whether they are cut into fields. -/
  words : List (Bool × Word)
  /-- What is left of the present word. -/
  parts : List Part := []
  cuts : Bool := true
  /-- The field that is open. -/
  current : Option String := none
  /-- The fields of the present word, backwards. -/
  fields : List String := []
  /-- The fields of the words before it, backwards. -/
  groups : List (List String) := []
  begun : Bool := false
deriving Inhabited

inductive Control where
  | run (script : Script)
  | expand (expansion : Expansion)
  /-- All words are expanded. -/
  | fields (groups : List (List String))
  | finish
  | leave
  /-- Out of some loops, or on to their next turn. -/
  | jump (loops : Nat) (again : Bool)
deriving Inhabited

/-- How a script that runs apart is ended. -/
inductive Apart where
  | plain
  /-- It was a process of its own. -/
  | process
  /-- Its output goes into a word. -/
  | word (buffer : Nat) (quoted : Bool) (expansion : Expansion)
  /-- Its output is the input of the next, which starts with it. -/
  | pipe (buffer : Nat) (next : Script) (start : Option Nat)
  /-- It was started when another was, which took its time. -/
  | last (start taken : Option Nat)
  | background
deriving Inhabited

inductive Frame where
  | next (script : Script)
  | both (script : Script)
  | either (script : Script)
  | negate
  | choose (consequent alternative : Script)
  | test (untilTrue : Bool) (condition body : Script)
  | turn (untilTrue : Bool) (condition body : Script)
  | each (name : String) (items : List String) (body : Script)
  | items (name : String) (body : Script)
  | command (command : SimpleCommand)
  | redirect (line : Nat) (body : Script) (redirections : List Redirection)
  /-- Streams and variables that were others for one command. -/
  | restore (streams : Streams) (bindings : List (String × Option String))
  | apart (scope : Scope) (how : Apart)
  /-- More text of a script, which has so many lines. -/
  | source (total : Nat) (text : List Char)
deriving Inhabited

structure Machine where
  control : Control
  frames : List Frame
  session : Session
deriving Inhabited

namespace Expansion

def isBlank (c : Char) : Bool := c == ' ' || c == '\t' || c == '\n'

def append (expansion : Expansion) (text : String) : Expansion :=
  { expansion with current := some (expansion.current.getD "" ++ text) }

def cut (expansion : Expansion) : Expansion :=
  match expansion.current with
  | some field => { expansion with current := none, fields := field :: expansion.fields }
  | none => expansion

def add (expansion : Expansion) (quoted : Bool) (value : String) : Expansion :=
  if quoted || !expansion.cuts then expansion.append value
  else value.toList.foldl
    (fun expansion c =>
      if isBlank c then expansion.cut else expansion.append (String.singleton c))
    expansion

def addAll (expansion : Expansion) : List String → Expansion
  | [] => expansion
  | [value] => expansion.append value
  | value :: values => addAll (expansion.append value).cut values

def close (expansion : Expansion) : Expansion :=
  let expansion :=
    if expansion.cuts then expansion.cut else (expansion.append "").cut
  { expansion with groups := expansion.fields.reverse :: expansion.groups, fields := [] }

def advance? (expansion : Expansion) : Option Expansion :=
  match expansion.words with
  | [] => none
  | (cuts, parts) :: words =>
    some { expansion with words, parts, cuts, begun := true }

end Expansion

namespace Machine

def countLines (text : List Char) : Nat := text.count '\n'

def finish (machine : Machine) (session : Session) : Machine :=
  { machine with control := .finish, session }

def push (machine : Machine) (frame : Frame) (control : Control) : Machine :=
  { machine with control, frames := frame :: machine.frames }

/-- Ends the script with a complaint, as an error of the script itself does. -/
def abort (machine : Machine) (line : Nat) (text : String) : Machine :=
  { machine with
    control := .leave
    session := (machine.session.complainAt line text).finished 2 }

def expandPart (machine : Machine) (expansion : Expansion) (part : Part) : Machine :=
  let session := machine.session
  let go (expansion : Expansion) : Machine := { machine with control := .expand expansion }
  match part with
  | .literal text quoted =>
    if quoted || !text.isEmpty then go (expansion.append text) else go expansion
  | .parameter name none quoted =>
    if name == "@" && quoted && expansion.cuts then go (expansion.addAll session.scope.args)
    else match session.parameter? name with
      | some value => go (expansion.add quoted value)
      | none => go (if quoted then expansion.append "" else expansion)
  | .parameter name (some substitute) quoted =>
    let value := session.parameter? name
    let nested (text : String) : Machine :=
      match Reader.wordOfText text quoted with
      | .ok parts => go { expansion with parts := parts ++ expansion.parts }
      | .error fault => machine.abort 1 ("Syntax error: " ++ fault.reason)
    match substitute with
    | .length => go (expansion.append (toString (value.getD "").length))
    | .fallback orEmpty text =>
      match value.filter fun value => !(orEmpty && value.isEmpty) with
      | some value => go (expansion.add quoted value)
      | none => nested text
    | .replacement notEmpty text =>
      match value.filter fun value => !(notEmpty && value.isEmpty) with
      | some _ => nested text
      | none => go (if quoted then expansion.append "" else expansion)
  | .arithmetic text quoted =>
    let value (name : String) : Int :=
      Arithmetic.numberIn ((session.parameter? name).getD "")
    let plain := String.ofList (text.toList.filter fun c =>
      !(['$', '\x7b', '\x7d', '"']).contains c)
    match Arithmetic.evaluate value plain with
    | .ok number => go (expansion.add quoted (toString number))
    | .error .divisionByZero =>
      machine.abort 1 ("arithmetic expression: division by zero: \"" ++ text ++ "\"")
    | .error .notAnExpression =>
      machine.abort 1 ("arithmetic expression: expecting primary: \"" ++ text ++ "\"")
  | .output script quoted =>
    let (inner, buffer) := session.collecting
    { control := .finish
      frames := .source (countLines script.toList) script.toList ::
        .apart session.scope (.word buffer quoted expansion) :: machine.frames
      session := inner.finished 0 }

def expand (machine : Machine) (expansion : Expansion) : Machine :=
  match expansion.parts with
  | part :: parts => machine.expandPart { expansion with parts } part
  | [] =>
    let expansion := if expansion.begun then expansion.close else expansion
    match expansion.advance? with
    | some expansion => { machine with control := .expand expansion }
    | none => { machine with control := .fields expansion.groups.reverse }

/-- Opens what a redirection names, for the session; or says why not. -/
def openRedirection (session : Session) (redirection : Redirection) (target : String) :
    Except String Session :=
  let files := session.system
  let path := toBytes target
  let write (fresh : Bool) : Except String Session :=
    match (if fresh || !files.holds path then files.create path else
      (files.resolve true path).map fun place => (place, files)) with
    | .ok (place, files) =>
      let session := { session with files }
      match files.entryAt place with
      | some (.device .null) => .ok (session.withSink redirection.stream .nowhere)
      | some (.device .full) => .ok (session.withSink redirection.stream .full)
      | some (.directory _) | some .closedDirectory =>
        .error ("cannot create " ++ target ++ ": Is a directory")
      | some (.closedFile _) => .error ("cannot create " ++ target ++ ": Permission denied")
      | _ => .ok (session.withSink redirection.stream (.file place))
    | .error .missing => .error ("cannot create " ++ target ++ ": Directory nonexistent")
    | .error fault => .error ("cannot create " ++ target ++ ": " ++ ToolCall.reason fault)
  match redirection.kind with
  | .text => .ok (session.withInput (toBytes target))
  | .read =>
    match files.find path with
    | .ok (_, .file content) => .ok (session.withInput content)
    | .ok (_, .closedFile _) | .ok (_, .closedDirectory) =>
      .error ("cannot open " ++ target ++ ": Permission denied")
    | .ok _ => .ok (session.withInput [])
    | .error .missing => .error ("cannot open " ++ target ++ ": No such file")
    | .error fault => .error ("cannot open " ++ target ++ ": " ++ ToolCall.reason fault)
  | .write => write true
  | .append => write false
  | .duplicate =>
    if redirection.stream == 0 then .ok session
    else if target == "-" then .ok (session.withSink redirection.stream .closed)
    else match target.toNat? with
      | some stream =>
        match session.sink stream with
        | .closed => .error (target ++ ": Bad file descriptor")
        | sink => .ok (session.withSink redirection.stream sink)
      | none => .error "Bad fd number"

def openAll (session : Session) (redirections : List Redirection) (targets : List (List String)) :
    Except String Session :=
  (redirections.zip targets).foldlM
    (fun session (redirection, target) =>
      openRedirection session redirection (target.headD ""))
    session

def signalNumber? (name : String) : Option Nat :=
  match name.toNat? with
  | some number => some number
  | none =>
    (Exit.signalNames.idxOf? (if name.startsWith "SIG" then name else "SIG" ++ name)).map (· + 1)

/-- Signals that do nothing to a script unless it says so. -/
def harmlessSignals : List Nat := [0, 17, 18, 23, 28]

def stoppingSignals : List Nat := [19, 20, 21, 22]

def killed (machine : Machine) (signal : Nat) : Machine :=
  let session := machine.session.finished (128 + signal)
  if harmlessSignals.contains signal then machine.finish (machine.session.finished 0)
  else if stoppingSignals.contains signal then
    machine.finish { session with elapsed := none }
  else
    let isProcess : Frame → Bool
      | .apart _ .process => true
      | _ => false
    match machine.frames.dropWhile (!isProcess ·) with
    | [] =>
      { machine with
        control := .finish
        session := { session with ended := some (.signal signal) } }
    | .apart scope how :: frames =>
      let outer : Session := { session with scope }
      let outer := if signal == 9 then outer.complain "Killed\n" else outer
      { control := .leave
        frames := .apart scope how :: frames
        session := { outer with scope := session.scope } }
    | frames => { control := .leave, frames, session }

def killArguments : List String → Nat → Nat × List String
  | "-s" :: name :: rest, _ => (((signalNumber? name).getD 15), rest)
  | "--" :: rest, signal => (signal, rest)
  | arg :: rest, signal =>
    match arg.toList with
    | '-' :: name =>
      match signalNumber? (String.ofList name) with
      | some signal => (signal, rest)
      | none => (signal, arg :: rest)
    | _ => (signal, arg :: rest)
  | [], signal => (signal, [])

def kill (machine : Machine) (line : Nat) (args : List String) : Machine :=
  let (signal, targets) := killArguments args 15
  if targets.contains (toString machine.session.scope.process) then machine.killed signal
  else machine.finish ((machine.session.complainAt line "kill: No such process\n").finished 1)

def runText (machine : Machine) (text : List Char) : Machine :=
  machine.push (.source (countLines text) text) .finish

def runProcess (machine : Machine) (name : String) (args : List String) (strict : Bool)
    (text : List Char) : Machine :=
  let scope := machine.session.scope
  let inner := { scope with
    name, args, strict
    bindings := scope.bindings.filter fun (name, _) => scope.exported.contains name
    process := scope.process + 1 }
  { control := .finish
    frames := .source (countLines text) text :: .apart scope .process :: machine.frames
    session := { machine.session with scope := inner, status := 0 } }

/-- Starts the interpreter: with a script, with a file that holds one, or with its input. -/
def interpret (machine : Machine) (name : String) (args : List String) : Machine :=
  let isOption (arg : String) : Bool := arg.length > 1 && arg.startsWith "-" && arg != "--"
  let options := (args.takeWhile isOption).flatMap fun arg => arg.toList.drop 1
  let rest := match args.dropWhile isOption with
    | "--" :: rest => rest
    | rest => rest
  let strict := options.contains 'e'
  if options.contains 'c' then
    match rest with
    | [] =>
      machine.finish
        ((machine.session.complain (name ++ ": 0: -c requires an argument\n")).finished 2)
    | script :: rest =>
      machine.runProcess (rest.headD name) (rest.drop 1) strict script.toList
  else match rest with
    | [] =>
      let text := (ofBytes machine.session.unread).toList
      { machine with session := machine.session.leave [] }.runProcess name [] strict text
    | path :: rest =>
      match machine.session.system.read (toBytes path) with
      | .ok content => machine.runProcess path rest strict (ofBytes content).toList
      | .error _ =>
        machine.finish ((machine.session.complain
          (name ++ ": 0: cannot open " ++ path ++ ": No such file\n")).finished 2)

def innerTools : List String := ["[", "echo", "false", "printf", "pwd", "test", "true"]

def toolDirectory : Location := ["usr", "bin"]

/-- The tool that a path leads to, or why none can be run. -/
def toolAt (files : FileSystem) (path : String) : Except PathFault String :=
  match files.find (toBytes path) with
  | .error fault => .error fault
  | .ok (place, .file _) =>
    if place.dropLast == toolDirectory then .ok (ofBytes (place.getLast?.getD []))
    else .error .denied
  | .ok _ => .error .denied

def runTool (machine : Machine) (line : Nat) (name : String) (args : List String)
    (inner : Bool) : Machine :=
  match name with
  | "sh" | "dash" => machine.interpret name args
  | "kill" => machine.kill line args
  | _ =>
    match ToolCall.tool? name with
    | some tool => machine.finish (machine.session.runTool line name args inner tool)
    | none => machine.finish (machine.session.finished 0)

/-- Runs a tool in an environment that has more variables. -/
def runEnv (machine : Machine) (line : Nat) (args : List String) : Machine :=
  let isVariable (arg : String) : Bool := (Reader.assignment? arg.toList).isSome
  let session := (args.takeWhile isVariable).foldl
    (fun session arg =>
      match Reader.assignment? arg.toList with
      | some (name, value) => (session.assign name (String.ofList value)).exporting name
      | none => session)
    machine.session
  let machine := { machine with session }.push (.apart machine.session.scope .plain) .finish
  match args.dropWhile isVariable with
  | [] => machine.finish (session.finished 0)
  | name :: args =>
    if FileSystem.toolNames.contains name then machine.runTool line name args false
    else machine.finish ((session.complain
      ("env: '" ++ name ++ "': No such file or directory\n")).finished 127)

def runCommand (machine : Machine) (line : Nat) (name : String) (args : List String) : Machine :=
  if innerTools.contains name then machine.runTool line name args true
  else if name.contains '/' then
    match toolAt machine.session.system name with
    | .ok tool => machine.runTool line tool args false
    | .error .denied =>
      machine.finish
        ((machine.session.complainAt line (name ++ ": Permission denied")).finished 126)
    | .error _ =>
      machine.finish ((machine.session.complainAt line (name ++ ": not found")).finished 127)
  else if name == "env" then machine.runEnv line args
  else if FileSystem.toolNames.contains name then machine.runTool line name args false
  else machine.finish ((machine.session.complainAt line (name ++ ": not found")).finished 127)

def statusOf (text : String) : Nat := (text.toNat?.getD 2) % 256

/-- Takes the next line of the input, and says whether the line has an end. -/
def takeLine (session : Session) : List Char × Bool × Session :=
  let bytes := session.unread
  let line := bytes.takeWhile (· != 10)
  ((ofBytes line).toList, bytes.contains 10, session.leave (bytes.drop (line.length + 1)))

/-- Gives the words of a line to variables; the last takes all that is left. -/
def assignWords : List String → List Char → Session → Session
  | [], _, session => session
  | [name], text, session =>
    session.assign name (String.ofList
      ((text.reverse.dropWhile Expansion.isBlank).reverse))
  | name :: names, text, session =>
    let word := text.takeWhile (!Expansion.isBlank ·)
    assignWords names ((text.drop word.length).dropWhile Expansion.isBlank)
      (session.assign name (String.ofList word))

def isLoop : Frame → Bool
  | .turn _ _ _ | .each _ _ _ => true
  | _ => false

def special? (machine : Machine) (line : Nat) (name : String) (args : List String) :
    Option Machine :=
  let session := machine.session
  let done (session : Session) : Option Machine := some (machine.finish (session.finished 0))
  match name with
  | ":" => done session
  | "exit" | "return" =>
    let status := (args.head?.map statusOf).getD session.status
    some { machine with control := .leave, session := session.finished status }
  | "break" | "continue" =>
    if machine.frames.any isLoop then
      let loops := (args.head?.bind String.toNat?).getD 1
      some { machine with control := .jump loops (name == "continue") }
    else done session
  | "shift" =>
    let count := (args.head?.bind String.toNat?).getD 1
    if session.scope.args.length < count then
      some (machine.abort line "shift: can't shift that many")
    else done { session with scope := { session.scope with
        args := session.scope.args.drop count } }
  | "eval" => some ({ machine with session := session.finished 0 }.runText
      (" ".intercalate args).toList)
  | "exec" =>
    match args with
    | [] => done session
    | name :: args =>
      let exit : SimpleCommand := ⟨line, [], [[.literal "exit" true]], []⟩
      some ((machine.push (.next (.simple exit)) .finish).runCommand line name args)
  | "export" | "readonly" | "local" =>
    done (args.foldl
      (fun session arg =>
        match Reader.assignment? arg.toList with
        | some (name, value) => (session.assign name (String.ofList value)).exporting name
        | none => session.exporting arg)
      session)
  | "unset" => done (args.foldl Session.unset session)
  | "set" =>
    match args with
    | "--" :: args => done { session with scope := { session.scope with args } }
    | option :: _ =>
      if option.startsWith "-" then
        done { session with scope := { session.scope with
          strict := session.scope.strict || option.contains 'e' } }
      else if option.startsWith "+" then
        done { session with scope := { session.scope with
          strict := session.scope.strict && !option.contains 'e' } }
      else done { session with scope := { session.scope with args } }
    | [] => done session
  | "read" =>
    let names := args.filter fun arg => !arg.startsWith "-"
    let (text, ended, session) := takeLine session
    let session := assignWords names (text.dropWhile Expansion.isBlank) session
    some (machine.finish (session.finished (if ended then 0 else 1)))
  | "cd" =>
    let target := args.headD "/"
    match session.system.find (toBytes target) with
    | .ok (place, .directory _) =>
      done { session with scope := { session.scope with workingDirectory := place } }
    | _ =>
      some (machine.finish ((session.complainAt line ("cd: can't cd to " ++ target)).finished 2))
  | "wait" | "trap" | "umask" | "ulimit" => done session
  | "kill" => some (machine.kill line args)
  | "command" =>
    match args with
    | [] => done session
    | name :: args => some (machine.runCommand line name args)
  | _ => none

def runSimple (machine : Machine) (command : SimpleCommand) (groups : List (List String)) :
    Machine :=
  let words := (groups.take command.words.length).flatten
  let groups := groups.drop command.words.length
  let values := groups.take command.assignments.length
  let targets := groups.drop command.assignments.length
  let session := machine.session
  let assigned (session : Session) : Session :=
    (command.assignments.zip values).foldl
      (fun session ((name, _), value) => session.assign name (value.headD "")) session
  let before := session.scope.streams
  match openAll session command.redirections targets with
  | .error fault => machine.finish ((session.complainAt command.line fault).finished 2)
  | .ok session =>
    match words with
    | [] =>
      let isOutput : Part → Bool
        | .output _ _ => true
        | _ => false
      let kept := command.assignments.any fun (_, word) => word.any isOutput
      ({ machine with session }.push (.restore before []) .finish).finish
        ((assigned session).finished (if kept then session.status else 0))
    | name :: args =>
      let lasting := name == "exec" && args.isEmpty
      let names := command.assignments.map (·.1)
      let held := names.map fun name => (name, session.valueOf? name)
      let session := names.foldl Session.exporting (assigned session)
      let machine := { machine with session }
      let machine :=
        if lasting || (command.redirections.isEmpty && names.isEmpty) then machine
        else machine.push (.restore before held) .finish
      match machine.special? command.line name args with
      | some next => next
      | none => machine.runCommand command.line name args

def expandWords (machine : Machine) (frame : Frame) (words : List (Bool × Word)) : Machine :=
  machine.push frame (.expand { words })

def runApart (machine : Machine) (how : Apart) (script : Script) : Machine :=
  machine.push (.apart machine.session.scope how) (.run script)

def run (machine : Machine) (script : Script) : Machine :=
  match script with
  | .nothing => machine.finish machine.session
  | .simple command =>
    machine.expandWords (.command command)
      (command.words.map (fun word => (true, word)) ++
        command.assignments.map (fun (_, word) => (false, word)) ++
        command.redirections.map fun redirection => (false, redirection.target))
  | .following first second => machine.push (.next second) (.run first)
  | .both first second => machine.push (.both second) (.run first)
  | .either first second => machine.push (.either second) (.run first)
  | .negated body => machine.push .negate (.run body)
  | .piped first second =>
    let (session, buffer) := machine.session.collecting
    { control := .run first
      frames := .apart machine.session.scope (.pipe buffer second machine.session.elapsed) ::
        machine.frames
      session }
  | .branch condition consequent alternative =>
    machine.push (.choose consequent alternative) (.run condition)
  | .loop untilTrue condition body =>
    machine.push (.test untilTrue condition body) (.run condition)
  | .each name items body =>
    match items with
    | some words => machine.expandWords (.items name body) (words.map fun word => (true, word))
    | none =>
      { machine with
        control := .finish
        frames := .each name machine.session.scope.args body :: machine.frames
        session := machine.session.finished 0 }
  | .isolated body => machine.runApart .plain body
  | .background body => machine.runApart .background body
  | .redirected line body redirections =>
    machine.expandWords (.redirect line body redirections)
      (redirections.map fun redirection => (false, redirection.target))

/-- Whether a frame asks how a command ended, so that a failure is no reason to stop. -/
def asks : Frame → Bool
  | .both _ | .either _ | .negate | .choose _ _ | .test _ _ _ => true
  | _ => false

def strictlyFails (machine : Machine) : Bool :=
  let session := machine.session
  session.scope.strict && session.status != 0 && !session.excused && !machine.frames.any asks

/-- Output that stands in a word loses the ends of lines at its end. -/
def outputText (bytes : List UInt8) : String :=
  ofBytes ((bytes.reverse.dropWhile (· == 10)).reverse)

def later (a b : Option Nat) : Option Nat := do return max (← a) (← b)

/-- Goes back to the script that waited for one that ran apart. -/
def endApart (machine : Machine) (scope : Scope) (how : Apart) : Machine :=
  let session := { machine.session with scope, excused := false }
  match how with
  | .plain | .process => machine.finish session
  | .background => machine.finish (session.finished 0)
  | .word buffer quoted expansion =>
    let expansion := expansion.add quoted (outputText (session.collected buffer))
    { machine with control := .expand expansion, session }
  | .pipe buffer next start =>
    let output := session.collected buffer
    let inner := { session with elapsed := start }.withInput output
    { control := .run next
      frames := .apart scope (.last start session.elapsed) :: machine.frames
      session := inner }
  | .last _ taken =>
    machine.finish { session with elapsed := later session.elapsed taken }

def resume (machine : Machine) (frame : Frame) : Machine :=
  let session := machine.session
  let succeeded := session.status == 0
  match frame with
  | .next script => { machine with control := .run script }
  | .both script =>
    if succeeded then { machine with control := .run script }
    else { machine with session := { session with excused := true } }
  | .either script => if succeeded then machine else { machine with control := .run script }
  | .negate =>
    machine.finish { session with status := if succeeded then 1 else 0, excused := true }
  | .choose consequent alternative =>
    if succeeded then { machine with control := .run consequent }
    else { machine with control := .run alternative, session := session.finished 0 }
  | .test untilTrue condition body =>
    if succeeded != untilTrue then
      machine.push (.turn untilTrue condition body) (.run body)
    else machine.finish (session.finished 0)
  | .turn untilTrue condition body =>
    machine.push (.test untilTrue condition body) (.run condition)
  | .each name items body =>
    match items with
    | [] => machine
    | item :: items =>
      { machine with session := session.assign name item }.push (.each name items body) (.run body)
  | .items _ _ | .command _ | .redirect _ _ _ => machine
  | .restore streams bindings =>
    machine.finish (bindings.foldl (fun session (name, value) => session.restore name value)
      { session with scope := { session.scope with streams } })
  | .apart scope how => machine.endApart scope how
  | .source total text =>
    match Reader.skipLines (text.length + 1) text with
    | [] => machine
    | text =>
      match Reader.readLine total text with
      | .ok (script, rest) => machine.push (.source total rest) (.run script)
      | .error fault =>
        machine.abort (Reader.lineAt total fault.left) ("Syntax error: " ++ fault.reason)

/-- Goes on with a frame after its words have been expanded. -/
def resumeExpanded (machine : Machine) (frame : Frame) (groups : List (List String)) : Machine :=
  match frame with
  | .command command => machine.runSimple command groups
  | .items name body =>
    { machine with session := machine.session.finished 0 }.push
      (.each name groups.flatten body) .finish
  | .redirect line body redirections =>
    match openAll machine.session redirections groups with
    | .ok session =>
      { machine with session }.push (.restore machine.session.scope.streams []) (.run body)
    | .error fault => machine.finish ((machine.session.complainAt line fault).finished 2)
  | _ => machine.finish machine.session

def jumpOver (machine : Machine) (frame : Frame) (loops : Nat) (again : Bool) : Machine :=
  let session := machine.session.finished 0
  let stop (next : Machine) : Machine :=
    if loops ≤ 1 then
      if again then next else machine.finish session
    else { machine with control := .jump (loops - 1) again }
  match frame with
  | .turn untilTrue condition body =>
    stop ({ machine with session }.push (.test untilTrue condition body) (.run condition))
  | .each name items body => stop ({ machine with session }.push (.each name items body) .finish)
  | .restore streams bindings =>
    { machine with
      session := bindings.foldl (fun session (name, value) => session.restore name value)
        { session with scope := { session.scope with streams } } }
  | .apart _ _ | .source _ _ =>
    { machine with control := .finish, frames := frame :: machine.frames, session }
  | _ => machine

def ended (machine : Machine) : Machine :=
  { machine with session := { machine.session with
      ended := some (.status (machine.session.status % 256)) } }

def step (machine : Machine) : Machine :=
  match machine.control with
  | .run script => machine.run script
  | .expand expansion => machine.expand expansion
  | .fields groups =>
    match machine.frames with
    | [] => machine.ended
    | frame :: frames => { machine with frames }.resumeExpanded frame groups
  | .finish =>
    match machine.frames with
    | [] => machine.ended
    | frame :: frames =>
      if machine.strictlyFails then { machine with control := .leave }
      else { machine with frames }.resume frame
  | .leave =>
    match machine.frames with
    | [] => machine.ended
    | .apart scope how :: frames => { machine with frames }.endApart scope how
    | _ :: frames => { machine with frames }
  | .jump loops again =>
    match machine.frames with
    | [] => machine.ended
    | frame :: frames => { machine with frames }.jumpOver frame loops again

/-- Runs until the script has ended, as long as the time and the steps last. -/
def runWithin (limit : Nat) : Nat → Machine → Option (Exit × Session)
  | 0, _ => none
  | steps + 1, machine =>
    match machine.session.elapsed with
    | none => none
    | some elapsed =>
      if limit ≤ elapsed then none
      else match machine.session.ended with
        | some exit => some (exit, machine.session)
        | none => runWithin limit steps machine.step

end Machine

end SourceIndex.Shell
