import SourceIndex.FileTree
import SourceIndex.Shell.Format
import SourceIndex.Text.Search

set_option autoImplicit false

namespace SourceIndex.Shell

structure ToolCall where
  name : String
  args : List String
  /-- What can still be read. -/
  input : List UInt8
  files : FileSystem
  /-- Whether the shell itself does the work. -/
  inner : Bool
deriving Inhabited

structure ToolResult where
  status : Nat := 0
  output : List UInt8 := []
  complaint : String := ""
  /-- What was not read. -/
  left : List UInt8
  files : FileSystem
  /-- How long it took, in milliseconds; for ever if none. -/
  pause : Option Nat := some 0
deriving Inhabited

def shownPlace (place : Location) : String := "/" ++ "/".intercalate (place.map ofBytes)

namespace ToolCall

def done (call : ToolCall) (output : List UInt8) : ToolResult :=
  { output, left := call.input, files := call.files }

def failed (call : ToolCall) (complaint : String) : ToolResult :=
  { status := 1, complaint := call.name ++ ": " ++ complaint ++ "\n",
    left := call.input, files := call.files }

def judged (call : ToolCall) (holds : Bool) : ToolResult :=
  { status := if holds then 0 else 1, left := call.input, files := call.files }

def helpHint (call : ToolCall) : String :=
  "\nTry '" ++ call.name ++ " --help' for more information."

def reason (fault : PathFault) : String :=
  String.ofList (fault.message.toList.takeWhile (· != '(')) |>.trimAscii.toString

def line (text : String) : List UInt8 := toBytes (text ++ "\n")

/-- The shell's own form takes escapes and one option; the tool takes escapes only if told to. -/
def echo (call : ToolCall) : ToolResult :=
  let joined (args : List String) : String := " ".intercalate args
  let ending (newLine : Bool) : List UInt8 := if newLine then [10] else []
  let escaped (args : List String) (newLine : Bool) : ToolResult :=
    let text := (joined args).toList
    let (bytes, stopped) := EscapeRules.write ⟨true, true, !call.inner⟩ (text.length + 1) text []
    call.done (bytes.reverse ++ if stopped then [] else ending newLine)
  if call.inner then
    match call.args with
    | "-n" :: args => escaped args false
    | args => escaped args true
  else
    let isOption (arg : String) : Bool :=
      match arg.toList with
      | '-' :: c :: letters => (c :: letters).all fun c => c == 'n' || c == 'e' || c == 'E'
      | _ => false
    let options := (call.args.takeWhile isOption).flatMap fun arg => arg.toList.drop 1
    let args := call.args.dropWhile isOption
    let newLine := !options.contains 'n'
    match options.reverse.find? fun c => c == 'e' || c == 'E' with
    | some 'e' => escaped args newLine
    | _ => call.done (toBytes (joined args) ++ ending newLine)

def printf (call : ToolCall) : ToolResult :=
  let args := match call.args with
    | "--" :: args => args
    | args => args
  match args with
  | [] =>
    if call.inner then { call.failed "usage: printf format [arg ...]" with status := 2 }
    else call.failed ("missing operand" ++ call.helpHint)
  | format :: args =>
    let (output, faults) := formatArguments ⟨false, !call.inner, !call.inner⟩ format args
    let complaint := String.join (faults.map fun fault =>
      "printf: " ++ FormatFault.message call.inner fault ++ "\n")
    { status := if faults.isEmpty then 0 else 1, output, complaint,
      left := call.input, files := call.files }

/-- Reads files one after another, the input for a hyphen. What cannot be read is complained of. -/
def readFiles (call : ToolCall) : List String → List UInt8 × List UInt8 × List String
  | [] => ([], call.input, [])
  | "-" :: names =>
    let (bytes, _, faults) := readFiles { call with input := [] } names
    (call.input ++ bytes, [], faults)
  | name :: names =>
    let (bytes, left, faults) := readFiles call names
    match call.files.read (toBytes name) with
    | .ok content => (content ++ bytes, left, faults)
    | .error fault => (bytes, left, (name ++ ": " ++ reason fault) :: faults)

/-- Runs a tool on the bytes of the files it names, or of its input. -/
def onFiles (call : ToolCall) (names : List String) (write : List UInt8 → List UInt8) :
    ToolResult :=
  let (bytes, left, faults) := call.readFiles (if names.isEmpty then ["-"] else names)
  { status := if faults.isEmpty then 0 else 1
    output := write bytes
    complaint := String.join (faults.map fun fault => call.name ++ ": " ++ fault ++ "\n")
    left, files := call.files }

def cat (call : ToolCall) : ToolResult := call.onFiles (call.args.filter (· != "-u")) id

def lines (bytes : List UInt8) : List (List UInt8) :=
  bytes.foldr
    (fun byte lines => if byte == 10 then [byte] :: lines else
      match lines with
      | [] => [[byte]]
      | line :: later => (byte :: line) :: later)
    []

structure Portion where
  bytes : Bool := false
  /-- The count runs from the start, not from the end. -/
  fromStart : Bool := false
  count : Nat := 10
deriving DecidableEq, Repr, Inhabited

def Portion.ofText (bytes : Bool) (text : String) : Portion :=
  match text.toList with
  | '+' :: digits => ⟨bytes, true, ((String.ofList digits).toNat?).getD 0⟩
  | digits => ⟨bytes, false, ((String.ofList digits).toNat?).getD 0⟩

/-- The portion that options ask for, and the names after them. -/
def portion : List String → Portion → Portion × List String
  | "-n" :: count :: args, _ => portion args (.ofText false count)
  | "-c" :: count :: args, _ => portion args (.ofText true count)
  | arg :: args, found =>
    match arg.toList with
    | '-' :: 'n' :: count => portion args (.ofText false (String.ofList count))
    | '-' :: 'c' :: count => portion args (.ofText true (String.ofList count))
    | '-' :: c :: count =>
      if c.isDigit then portion args (.ofText false (String.ofList (c :: count)))
      else (found, arg :: args)
    | _ => (found, arg :: args)
  | [], found => (found, [])

def head (call : ToolCall) : ToolResult :=
  let (portion, names) := portion call.args {}
  call.onFiles names fun bytes =>
    if portion.bytes then bytes.take portion.count
    else ((lines bytes).take portion.count).flatten

def tail (call : ToolCall) : ToolResult :=
  let (portion, names) := portion call.args {}
  let last {α : Type} (items : List α) : List α :=
    if portion.fromStart then items.drop (portion.count - 1)
    else items.drop (items.length - portion.count)
  call.onFiles names fun bytes =>
    if portion.bytes then last bytes else (last (lines bytes)).flatten

def wordCount (bytes : List UInt8) : Nat :=
  let isBlank (byte : UInt8) : Bool := byte == 32 || (9 ≤ byte && byte ≤ 13)
  (bytes.foldl
    (fun (count, inside) byte =>
      if isBlank byte then (count, false) else (if inside then count else count + 1, true))
    (0, false)).1

def wc (call : ToolCall) : ToolResult :=
  let isOption (arg : String) : Bool := arg.length > 1 && arg.startsWith "-"
  let options := (call.args.filter isOption).flatMap fun arg => arg.toList.drop 1
  let names := call.args.filter (!isOption ·)
  call.onFiles names fun bytes =>
    let wants (c : Char) : Bool := if options.isEmpty then c != 'm' else options.contains c
    let counts :=
      (if wants 'l' then [bytes.count 10] else []) ++
      (if wants 'w' then [wordCount bytes] else []) ++
      (if wants 'm' then [(Text.decodeLossy bytes).length] else []) ++
      (if wants 'c' then [bytes.length] else [])
    let pad (text : String) : String :=
      if counts.length == 1 then text
      else String.ofList (List.replicate (7 - text.length) ' ') ++ text
    let shown := " ".intercalate (counts.map fun count => pad (toString count))
    line (match names with
      | name :: _ => shown ++ " " ++ name
      | [] => shown)

/-- The bytes that a set of characters names, ranges filled in. -/
def setBytes (text : String) : List UInt8 :=
  let (bytes, _) := EscapeRules.write ⟨false, false, false⟩ (text.length + 1) text.toList []
  let rec ranges : List UInt8 → List UInt8
    | first :: 45 :: last :: rest =>
      (List.range (last.toNat + 1 - first.toNat)).map (fun n => first + n.toUInt8) ++ ranges rest
    | byte :: rest => byte :: ranges rest
    | [] => []
  ranges bytes.reverse

def tr (call : ToolCall) : ToolResult :=
  match call.args with
  | ["-d", set] =>
    let set := setBytes set
    call.onFiles [] fun bytes => bytes.filter (!set.contains ·)
  | [set, others] =>
    let set := setBytes set
    let others := setBytes others
    call.onFiles [] fun bytes => bytes.map fun byte =>
      match set.idxOf? byte with
      | some place => (others[place]?).getD (others.getLast?.getD byte)
      | none => byte
  | _ => call.failed ("missing operand" ++ call.helpHint)

def change (call : ToolCall) (doing : String)
    (apply : FileSystem → PathName → Except PathFault FileSystem) : ToolResult :=
  let names := call.args.filter fun arg => !arg.startsWith "-"
  let (files, faults) := names.foldl
    (fun (files, faults) name =>
      match apply files (toBytes name) with
      | .ok files => (files, faults)
      | .error fault =>
        (files, (doing ++ " '" ++ name ++ "': " ++ reason fault) :: faults))
    ((call.files, []) : FileSystem × List String)
  { status := if faults.isEmpty then 0 else 1
    complaint := String.join (faults.reverse.map fun fault => call.name ++ ": " ++ fault ++ "\n")
    left := call.input, files }

def touch (call : ToolCall) : ToolResult :=
  call.change "cannot touch" fun files name =>
    if files.holds name then .ok files else (files.create name).map (·.2)

def mkdir (call : ToolCall) : ToolResult :=
  call.change "cannot create directory" fun files name =>
    if call.args.contains "-p" then files.makeAll name else files.makeDirectory name

def rm (call : ToolCall) : ToolResult :=
  let tolerant := call.args.any fun arg => arg.startsWith "-" && arg.contains 'f'
  call.change "cannot remove" fun files name =>
    match files.resolve false name with
    | .error fault => if tolerant then .ok files else .error fault
    | .ok place =>
      match files.entryAt place with
      | none => if tolerant then .ok files else .error .missing
      | some _ => files.remove name

def compare? (operator : String) (a b : Int) : Option Bool :=
  match operator with
  | "-eq" => some (a == b)
  | "-ne" => some (a != b)
  | "-lt" => some (a < b)
  | "-le" => some (a ≤ b)
  | "-gt" => some (b < a)
  | "-ge" => some (b ≤ a)
  | _ => none

def unary? (files : FileSystem) (operator arg : String) : Option Bool :=
  let path := toBytes arg
  let content : List UInt8 := match files.read path with
    | .ok content => content
    | .error _ => []
  let closed := match files.find path with
    | .ok (_, .closedFile _) | .ok (_, .closedDirectory) => true
    | _ => false
  match operator with
  | "-n" => some (!arg.isEmpty)
  | "-z" => some arg.isEmpty
  | "-e" => some (files.holds path)
  | "-r" | "-w" => some (files.holds path && !closed)
  | "-d" => some (files.isDirectory path)
  | "-x" => some (files.isDirectory path && !closed)
  | "-f" => some (match files.find path with
    | .ok (_, .file _) | .ok (_, .closedFile _) => true
    | _ => false)
  | "-s" => some (!content.isEmpty || files.isDirectory path)
  | "-t" => some false
  | _ => none

def condition (files : FileSystem) : Nat → List String → Except String Bool
  | 0, _ => .error "too many arguments"
  | fuel + 1, args =>
    match args with
    | [] => .ok false
    | [text] => .ok (!text.isEmpty)
    | ["!", text] => .ok text.isEmpty
    | [operator, text] =>
      match unary? files operator text with
      | some holds => .ok holds
      | none => .error (operator ++ ": unexpected operator")
    | [a, "=", b] => .ok (a == b)
    | [a, "!=", b] => .ok (a != b)
    | "!" :: rest => (condition files fuel rest).map (!·)
    | _ =>
      let before (word : String) : List String := args.takeWhile (· != word)
      let after (word : String) : List String := (args.dropWhile (· != word)).drop 1
      if args.contains "-o" then do
        return (← condition files fuel (before "-o")) || (← condition files fuel (after "-o"))
      else if args.contains "-a" then do
        return (← condition files fuel (before "-a")) && (← condition files fuel (after "-a"))
      else match args with
        | [a, operator, b] =>
          match (a.trimAscii.toString.toInt?), (b.trimAscii.toString.toInt?) with
          | some x, some y =>
            match compare? operator x y with
            | some holds => .ok holds
            | none => .error (operator ++ ": unexpected operator")
          | some _, none => .error ("Illegal number: " ++ b)
          | none, _ => .error ("Illegal number: " ++ a)
        | _ => .error "too many arguments"

def test (call : ToolCall) : ToolResult :=
  let args := if call.name == "[" then call.args.dropLast else call.args
  if call.name == "[" && call.args.getLast? != some "]" then
    { call.failed (if call.inner then "missing ]" else "missing ']'") with status := 2 }
  else match condition call.files (2 * args.length + 2) args with
    | .ok holds => call.judged holds
    | .error fault => { call.failed fault with status := 2 }

/-- The milliseconds that a text of seconds spells, rounded up. -/
def milliseconds? (text : String) : Option Nat :=
  let characters := text.toList
  let whole := characters.takeWhile Char.isDigit
  let (fraction, rest) := match characters.drop whole.length with
    | '.' :: rest => (rest.takeWhile Char.isDigit, rest.dropWhile Char.isDigit)
    | rest => ([], rest)
  if whole.isEmpty && fraction.isEmpty then none
  else
    let unit? : Option Nat := match rest with
      | [] | ['s'] => some 1
      | ['m'] => some 60
      | ['h'] => some 3600
      | ['d'] => some 86400
      | _ => none
    unit?.map fun unit =>
      let value := ((String.ofList (whole ++ fraction)).toNat?).getD 0
      let scale := Nat.pow 10 fraction.length
      (value * 1000 * unit + scale - 1) / scale

def sleep (call : ToolCall) : ToolResult :=
  if call.args.isEmpty then call.failed ("missing operand" ++ call.helpHint)
  else if call.args.any (fun arg => arg == "infinity" || arg == "inf") then
    { call.done [] with pause := none }
  else match call.args.mapM milliseconds? with
    | some pauses => { call.done [] with pause := some (pauses.foldl (· + ·) 0) }
    | none =>
      match call.args.find? fun arg => (milliseconds? arg).isNone with
      | some arg => call.failed ("invalid time interval '" ++ arg ++ "'" ++ call.helpHint)
      | none => call.done []

/-- The numbers from `first` to `last`; the fuel is their count. -/
def numbers (step last : Int) : Nat → Int → List Int
  | 0, _ => []
  | fuel + 1, value =>
    if (0 < step && last < value) || (step < 0 && value < last) then []
    else value :: numbers step last fuel (value + step)

def seq (call : ToolCall) : ToolResult :=
  let write (first step last : Int) : ToolResult :=
    let count := if step == 0 then 0 else (Int.tdiv (last - first) step).toNat + 1
    call.done ((numbers step last count first).flatMap fun value => line (toString value))
  match call.args.mapM String.toInt? with
  | some [last] => write 1 1 last
  | some [first, last] => write first 1 last
  | some [first, step, last] => write first step last
  | _ => call.failed ("missing operand" ++ call.helpHint)

def basename (call : ToolCall) : ToolResult :=
  match call.args with
  | [] => call.failed ("missing operand" ++ call.helpHint)
  | path :: rest =>
    let bare := (path.toList.reverse.dropWhile (· == '/')).reverse
    let name := if bare.isEmpty && !path.isEmpty then ['/'] else Text.lastPiece '/' bare
    let name := match rest with
      | ending :: _ =>
        if ending.toList.isSuffixOf name && ending.toList != name then
          name.take (name.length - ending.length)
        else name
      | [] => name
    call.done (line (String.ofList name))

def dirname (call : ToolCall) : ToolResult :=
  match call.args with
  | [] => call.failed ("missing operand" ++ call.helpHint)
  | path :: _ =>
    let path := toBytes path
    let above := (FileSystem.parent? path).getD path
    call.done (line (if above.isEmpty then "." else ofBytes above))

def pwd (call : ToolCall) : ToolResult :=
  call.done (line (shownPlace call.files.workingDirectory))

def tool? (name : String) : Option (ToolCall → ToolResult) :=
  match name with
  | "[" | "test" => some test
  | "basename" => some basename
  | "cat" => some cat
  | "dirname" => some dirname
  | "echo" => some echo
  | "false" => some fun call => call.judged false
  | "head" => some head
  | "mkdir" => some mkdir
  | "printf" => some printf
  | "pwd" => some pwd
  | "rm" => some rm
  | "seq" => some seq
  | "sleep" => some sleep
  | "tail" => some tail
  | "touch" => some touch
  | "tr" => some tr
  | "true" => some fun call => call.judged true
  | "wc" => some wc
  | _ => none

end ToolCall

end SourceIndex.Shell
