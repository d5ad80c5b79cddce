import SourceIndex.Ask
import SourceIndex.Text.Lossy

set_option autoImplicit false

namespace SourceIndex

/-- How a command ended. -/
inductive Exit where
  | status (code : Nat)
  | signal (number : Nat)
deriving DecidableEq, Repr, Inhabited

namespace Exit

def signalNames : List String :=
  ["SIGHUP", "SIGINT", "SIGQUIT", "SIGILL", "SIGTRAP", "SIGABRT", "SIGBUS", "SIGFPE", "SIGKILL",
    "SIGUSR1", "SIGSEGV", "SIGUSR2", "SIGPIPE", "SIGALRM", "SIGTERM", "SIGSTKFLT", "SIGCHLD",
    "SIGCONT", "SIGSTOP", "SIGTSTP", "SIGTTIN", "SIGTTOU", "SIGURG", "SIGXCPU", "SIGXFSZ",
    "SIGVTALRM", "SIGPROF", "SIGWINCH", "SIGIO", "SIGPWR", "SIGSYS"]

/-- The name of a signal, signals being counted from one. -/
def signalName? (number : Nat) : Option String :=
  if number == 0 then none else signalNames[number - 1]?

def message : Exit → String
  | status code => "exit status: " ++ toString code
  | signal number =>
    "signal: " ++ toString number ++
      (match signalName? number with
        | some name => " (" ++ name ++ ")"
        | none => "")

def succeeded : Exit → Bool
  | status code => code == 0
  | signal _ => false

end Exit

/-- What a command leaves when it ends. -/
structure CommandResult where
  exit : Exit
  output : List UInt8
  complaints : List UInt8
deriving DecidableEq, Repr, Inhabited

/-- Why a command left nothing. -/
inductive CommandFault where
  | notStarted (reason : String)
  | timedOut
deriving DecidableEq, Repr, Inhabited

/-- A command to be started. -/
structure CommandCall where
  command : String
  args : List String
  /-- What it can read; nothing at all if none. -/
  input : Option (List UInt8)
  /-- How long it may take, in milliseconds. -/
  limit : Nat
deriving DecidableEq, Repr, Inhabited

/-- What starts a command and waits for it. -/
abbrev Launcher (σ : Type) := CommandCall → StateM σ (Except CommandFault CommandResult)

namespace CommandResult

/-- The last line that the command wrote of what went wrong. -/
def summary (result : CommandResult) : String :=
  match Text.trim (Text.decodeLossy result.complaints) with
  | [] => "no stderr output"
  | text => String.ofList (Text.lastPiece '\n' text)

/-- The output as text. -/
def text (result : CommandResult) : String := String.ofList (Text.decodeLossy result.output)

end CommandResult

/-- The whole seconds of a time limit, as messages say it. -/
def wholeSeconds (milliseconds : Nat) : Nat := milliseconds / 1000

namespace RetrievalConfig

/-- Judges what a ranker did, and keeps the first `count` chunks. -/
def judge (command : String) (limit count : Nat) :
    Except CommandFault CommandResult → Except RetrievalFailure (List RankedChunk)
  | .error (.notStarted reason) => .error (.notStarted command reason)
  | .error .timedOut => .error (.timedOut (wholeSeconds limit))
  | .ok result =>
    if result.exit.succeeded then (Ranking.parse result.text).map (List.take count)
    else .error (.commandFailed result.exit.message result.summary)

def rankWithin {σ : Type} (config : RetrievalConfig) (limit : Nat) (launch : Launcher σ)
    (query : String) (count : Nat) : StateM σ (Except RetrievalFailure (List RankedChunk)) := do
  let args := Ranking.renderArguments config.args query count
  return judge config.command limit count (← launch ⟨config.command, args, none, limit⟩)

def rank {σ : Type} (config : RetrievalConfig) (launch : Launcher σ) :
    String → Nat → StateM σ (Except RetrievalFailure (List RankedChunk)) :=
  config.rankWithin (config.timeoutSecs * 1000) launch

end RetrievalConfig

namespace CompletionConfig

/-- Judges what a completion did. Its answer is all it printed, without the blanks around it. -/
def judge (command : String) (limit : Nat) :
    Except CommandFault CommandResult → Except CompletionFailure String
  | .error (.notStarted reason) => .error (.notStarted command reason)
  | .error .timedOut => .error (.timedOut (wholeSeconds limit))
  | .ok result =>
    if result.exit.succeeded then
      let answer := Text.trimString result.text
      if answer.isEmpty then .error .emptyResponse else .ok answer
    else .error (.commandFailed result.exit.message result.summary)

def completeWithin {σ : Type} (command : String) (args : List String) (limit : Nat)
    (launch : Launcher σ) (messages : List Message) :
    StateM σ (Except CompletionFailure String) := do
  let input := Text.encode (Conversation.toJson messages).compact
  return judge command limit (← launch ⟨command, args, some input, limit⟩)

def complete? {σ : Type} (config : CompletionConfig) (launch : Launcher σ) :
    Option (List Message → StateM σ (Except CompletionFailure String)) :=
  config.command.map fun command =>
    completeWithin command config.args (config.timeoutSecs * 1000) launch

end CompletionConfig

def Config.collaborators {σ : Type} (config : Config) (launch : Launcher σ) : Collaborators σ where
  rank := config.retrieval.rank launch
  complete := config.completion.complete? launch

end SourceIndex
