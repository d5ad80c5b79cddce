import SourceIndex.Config

/-
What an operator writes on the command line. Options come before or after the words, `--` ends
them, and what is not understood is refused as a whole.
-/

set_option autoImplicit false

namespace SourceIndex

inductive Task where
  | index (root : String) (output : Option String)
  | ask (words : List String) (top : Option Nat) (promptOnly : Bool)
deriving DecidableEq, Repr, Inhabited

structure Invocation where
  config : Option String
  asJson : Bool
  task : Task
deriving DecidableEq, Repr, Inhabited

namespace CommandLine

/-- Why a command line gives nothing to do. -/
inductive Refusal where
  | usage
  /-- Help or the version is wanted. -/
  | help
deriving DecidableEq, Repr, Inhabited

/-- An option that a level of the command line takes. -/
inductive OptionName where
  | config
  | json
  | output
  | top
  | promptOnly
  | help
  | version
deriving DecidableEq, Repr, Inhabited

inductive Level where
  | outer
  | index
  | ask
deriving DecidableEq, Repr, Inhabited

namespace OptionName

def takesValue : OptionName → Bool
  | config | output | top => true
  | json | promptOnly | help | version => false

def long : OptionName → String
  | config => "config"
  | json => "json"
  | output => "output"
  | top => "top"
  | promptOnly => "prompt-only"
  | help => "help"
  | version => "version"

def short? : OptionName → Option Char
  | config => some 'c'
  | json => none
  | output => some 'o'
  | top => some 't'
  | promptOnly => none
  | help => some 'h'
  | version => some 'V'

/-- Whether a value can be the option's: a path is not empty, and a count is a number. -/
def accepts : OptionName → String → Bool
  | config, value => !value.isEmpty
  | output, value => !value.isEmpty
  | top, value => (wordOf? value).isSome
  | _, _ => true

end OptionName

namespace Level

def options : Level → List OptionName
  | outer => [.config, .json, .help, .version]
  | index => [.config, .json, .output, .help]
  | ask => [.config, .json, .top, .promptOnly, .help]

def long? (level : Level) (name : String) : Option OptionName :=
  level.options.find? fun option => option.long == name

def short? (level : Level) (c : Char) : Option OptionName :=
  level.options.find? fun option => option.short? == some c

def wordLimit : Level → Option Nat
  | outer => some 0
  | index => some 1
  | ask => none

end Level

structure Given where
  options : List (OptionName × String) := []
  /-- The words, the last one first. -/
  words : List String := []
deriving DecidableEq, Repr, Inhabited

namespace Given

def value? (given : Given) (name : OptionName) : Option String :=
  (given.options.find? fun (other, _) => other == name).map (·.2)

def has (given : Given) (name : OptionName) : Bool := (given.value? name).isSome

def addOption (given : Given) (name : OptionName) (value : String) : Except Refusal Given :=
  if name == .help || name == .version then .error .help
  else if given.has name || !name.accepts value then .error .usage
  else .ok { given with options := (name, value) :: given.options }

/-- Takes a word. The directory to be indexed is not empty. -/
def addWord (level : Level) (given : Given) (word : String) : Except Refusal Given :=
  if level.wordLimit.any (· ≤ given.words.length) then .error .usage
  else if level == .index && word.isEmpty then .error .usage
  else .ok { given with words := word :: given.words }

end Given

inductive Argument where
  | separator
  | long (name : String) (value : Option String)
  | short (letters : List Char)
  | word (text : String)
deriving DecidableEq, Repr, Inhabited

def Argument.of (text : String) : Argument :=
  match text.toList with
  | ['-', '-'] => .separator
  | '-' :: '-' :: rest =>
    let name := rest.takeWhile (· != '=')
    match rest.dropWhile (· != '=') with
    | _ :: value => .long (String.ofList name) (some (String.ofList value))
    | [] => .long (String.ofList name) none
  | '-' :: c :: rest => .short (c :: rest)
  | _ => .word text

/-- Takes the letters of one argument. An option with a value takes the letters after it as its
value, or else is left waiting for one. -/
def addLetters (level : Level) : Given → List Char → Except Refusal (Given × Option OptionName)
  | given, [] => .ok (given, none)
  | given, c :: rest =>
    match level.short? c with
    | none => .error .usage
    | some name =>
      if name.takesValue then
        match rest with
        | [] => .ok (given, some name)
        | '=' :: value => do return (← given.addOption name (String.ofList value), none)
        | value => do return (← given.addOption name (String.ofList value), none)
      else do addLetters level (← given.addOption name "") rest

def addLong (level : Level) (given : Given) (name : String) (value : Option String) :
    Except Refusal (Given × Option OptionName) :=
  match level.long? name, value with
  | none, _ => .error .usage
  | some name, some value =>
    if name.takesValue then do return (← given.addOption name value, none) else .error .usage
  | some name, none =>
    if name.takesValue then .ok (given, some name)
    else do return (← given.addOption name "", none)

def addWords (level : Level) (given : Given) (words : List String) : Except Refusal Given :=
  words.foldlM (Given.addWord level) given

/-- What the first word of the outer level names. -/
inductive Selected where
  | task (level : Level)
  | help
deriving DecidableEq, Repr, Inhabited

def Selected.of? (word : String) : Option Selected :=
  if word == "index" then some (.task .index)
  else if word == "ask" then some (.task .ask)
  else if word == "help" then some .help
  else none

/-- Reads the arguments of a task. `waiting` is an option that lacks its value. -/
def readTask (level : Level) : Given → Option OptionName → List String → Except Refusal Given
  | given, none, [] => .ok given
  | _, some _, [] => .error .usage
  | given, some name, text :: later =>
    match Argument.of text with
    | .word value => do readTask level (← given.addOption name value) none later
    | _ => .error .usage
  | given, none, text :: later =>
    match Argument.of text with
    | .separator => addWords level given later
    | .word word => do readTask level (← given.addWord level word) none later
    | .long name value => do
      let (given, waiting) ← addLong level given name value
      readTask level given waiting later
    | .short letters => do
      let (given, waiting) ← addLetters level given letters
      readTask level given waiting later

/-- Reads the arguments up to the task, and gives the level of the task and what follows it. -/
def readOuter : Given → Option OptionName → List String →
    Except Refusal (Given × Level × List String)
  | _, _, [] => .error .usage
  | given, some name, text :: later =>
    match Argument.of text with
    | .word value => do readOuter (← given.addOption name value) none later
    | _ => .error .usage
  | given, none, text :: later =>
    match Argument.of text with
    | .separator => .error .usage
    | .word word =>
      match Selected.of? word with
      | some (.task level) => .ok (given, level, later)
      | some .help =>
        match later with
        | [] => .error .help
        | [topic] => .error (if (Selected.of? topic).isSome then .help else .usage)
        | _ => .error .usage
      | none => .error .usage
    | .long name value => do
      let (given, waiting) ← addLong .outer given name value
      readOuter given waiting later
    | .short letters => do
      let (given, waiting) ← addLetters .outer given letters
      readOuter given waiting later

def configVariable : String := "REPOQA_CONFIG"

/-- The variable stands in for the option at each level where the option is not given, so an
empty one is refused unless the option is given at both. -/
def checkVariable (environment : Environment) (given : Given) : Except Refusal Unit :=
  if environment.get? configVariable == some "" && !given.has .config then .error .usage
  else .ok ()

def taskOf (level : Level) (given : Given) : Except Refusal Task :=
  match level, given.words.reverse with
  | .index, [root] => .ok (.index root (given.value? .output))
  | .ask, word :: words =>
    .ok (.ask (word :: words) ((given.value? .top).bind wordOf?) (given.has .promptOnly))
  | _, _ => .error .usage

/-- Reads a command line. Of two files of settings the one nearer to the end of the line counts,
and the environment comes last. -/
def read (environment : Environment) (args : List String) : Except Refusal Invocation := do
  let (outer, level, later) ← readOuter {} none args
  let inner ← readTask level {} none later
  checkVariable environment inner
  let task ← taskOf level inner
  checkVariable environment outer
  return {
    config := (inner.value? .config).or ((outer.value? .config).or
      (environment.get? configVariable))
    asJson := outer.has .json || inner.has .json
    task }

end CommandLine

end SourceIndex
