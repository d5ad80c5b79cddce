import SourceIndex.Chunk
import SourceIndex.Conversation
import SourceIndex.Failure
import SourceIndex.PathName

set_option autoImplicit false

namespace SourceIndex

structure IndexingConfig where
  /-- The store that an indexing run writes. -/
  outputPath : String := "data/chunked.jsonl"
  /-- The most bytes that a file may have. -/
  maxFileSize : Nat := 1048576
  /-- Parts of paths that exclude a file. -/
  excludePatterns : List String := []
  /-- Names of directories that are left out. -/
  excludeDirs : List String := []
  /-- Whether a file with faults keeps the chunks that could be read. -/
  allowPartialParse : Bool := false
deriving DecidableEq, Repr, Inhabited

structure RetrievalConfig where
  command : String := "./repoqa"
  /-- Arguments, with places for the question and for the number of chunks. -/
  args : List String := ["query", "--json", "--top", "\x7btop_k\x7d", "\x7bquery\x7d"]
  topK : Nat := 3
  timeoutSecs : Nat := 60
deriving DecidableEq, Repr, Inhabited

structure CompletionConfig where
  /-- The command that reads messages and prints an answer. -/
  command : Option String := none
  args : List String := []
  timeoutSecs : Nat := 120
  systemPrompt : String := Conversation.defaultInstructions
deriving DecidableEq, Repr, Inhabited

structure Config where
  indexing : IndexingConfig := {}
  retrieval : RetrievalConfig := {}
  completion : CompletionConfig := {}
deriving DecidableEq, Repr, Inhabited

abbrev Environment := List (String × String)

def Environment.get? (environment : Environment) (name : String) : Option String :=
  (environment.find? fun (key, _) => key == name).map (·.2)

namespace Config

/-- What must not hold of valid settings, in the order in which it is looked for. -/
def demands (config : Config) : List (Bool × String × String) :=
  [(config.indexing.outputPath.isEmpty, "indexing.output_path", "must not be empty"),
    (config.indexing.maxFileSize == 0, "indexing.max_file_size", "must be greater than 0"),
    (Text.isBlankString config.retrieval.command, "retrieval.command", "must not be empty"),
    (config.retrieval.topK == 0, "retrieval.top_k", "must be greater than 0"),
    (config.retrieval.timeoutSecs == 0, "retrieval.timeout_secs", "must be greater than 0"),
    (config.completion.timeoutSecs == 0, "completion.timeout_secs", "must be greater than 0"),
    (config.completion.command.any Text.isBlankString, "completion.command",
      "must not be empty when set")]

def fault? (config : Config) : Option ConfigFailure :=
  (config.demands.find? (·.1)).map fun (_, key, reason) => .invalidValue key reason

def validate (config : Config) : Except Failure Unit :=
  match config.fault? with
  | some cause => .error (.config cause)
  | none => .ok ()

/-- The settings with the values of the environment over them. A variable that should be a number
and is none counts as unset. -/
def override (config : Config) (environment : Environment) : Config where
  indexing := { config.indexing with
    outputPath := (environment.get? "REPOQA_OUTPUT_PATH").getD config.indexing.outputPath
    maxFileSize := ((environment.get? "REPOQA_MAX_FILE_SIZE").bind wordOf?).getD
      config.indexing.maxFileSize }
  retrieval := { config.retrieval with
    command := (environment.get? "REPOQA_RANKER_COMMAND").getD config.retrieval.command
    topK := ((environment.get? "REPOQA_TOP_K").bind wordOf?).getD config.retrieval.topK }
  completion := { config.completion with
    command := match environment.get? "REPOQA_COMPLETION_COMMAND" with
      | some command => some command
      | none => config.completion.command }

/-- Where settings are kept: below a directory that the environment names, or below `.config` in
the home directory, or below the working directory. -/
def defaultPath (environment : Environment) : PathName :=
  let base : PathName := match (environment.get? "XDG_CONFIG_HOME").filter (!·.isEmpty) with
    | some directory => directory
    | none => match environment.get? "HOME" with
      | some home => PathName.join home ".config"
      | none => "."
  PathName.join (PathName.join base "repoqa") "config.toml"

end Config

end SourceIndex
