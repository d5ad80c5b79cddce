set_option autoImplicit false

namespace SourceIndex

/-- Failures of the walk over a tree and of the store. -/
inductive IndexingFailure where
  | directoryNotFound (path : String)
  | notADirectory (path : String)
  | walkFailed (directory reason : String)
  | fileReadFailed (file reason : String)
  | fileTooLarge (file : String) (size limit : Nat)
  | writeFailed (path reason : String)
deriving DecidableEq, Repr, Inhabited

/-- Failures of cutting one file into chunks. -/
inductive ChunkingFailure where
  | parseFailed (file reason : String)
  | grammarUnavailable (language : String)
  | panicked (file : String)
deriving DecidableEq, Repr, Inhabited

inductive RetrievalFailure where
  | notStarted (command reason : String)
  | commandFailed (status summary : String)
  | timedOut (seconds : Nat)
  | invalidOutput (reason : String)
  | notAnArray (kind : String)
deriving DecidableEq, Repr, Inhabited

inductive CompletionFailure where
  | notConfigured
  | notStarted (command reason : String)
  | commandFailed (status summary : String)
  | timedOut (seconds : Nat)
  | emptyResponse
deriving DecidableEq, Repr, Inhabited

inductive ConfigFailure where
  | loadFailed (reason : String)
  | parseFailed (reason : String)
  | invalidValue (key reason : String)
  | fileNotFound (path : String)
deriving DecidableEq, Repr, Inhabited

/-- Failures of what the operator asks for. -/
inductive ValidationFailure where
  | empty (what : String)
  | invalidValue (what reason : String)
deriving DecidableEq, Repr, Inhabited

inductive Failure where
  | indexing (cause : IndexingFailure)
  | chunking (cause : ChunkingFailure)
  | retrieval (cause : RetrievalFailure)
  | completion (cause : CompletionFailure)
  | config (cause : ConfigFailure)
  | validation (cause : ValidationFailure)
  | json (reason : String)
deriving DecidableEq, Repr, Inhabited

def IndexingFailure.message : IndexingFailure → String
  | directoryNotFound path => "Directory not found: " ++ path
  | notADirectory path => "Path is not a directory: " ++ path
  | walkFailed directory reason => "Failed to read directory '" ++ directory ++ "': " ++ reason
  | fileReadFailed file reason => "Failed to read file '" ++ file ++ "': " ++ reason
  | fileTooLarge file size limit =>
    "File '" ++ file ++ "' exceeds maximum size: " ++ toString size ++ " > " ++ toString limit
  | writeFailed path reason => "Failed to write chunk store '" ++ path ++ "': " ++ reason

def ChunkingFailure.message : ChunkingFailure → String
  | parseFailed file reason => "Failed to parse '" ++ file ++ "': " ++ reason
  | grammarUnavailable language => "Failed to load grammar for " ++ language
  | panicked file => "Chunk extraction panicked for '" ++ file ++ "'"

def RetrievalFailure.message : RetrievalFailure → String
  | notStarted command reason => "Failed to start ranker '" ++ command ++ "': " ++ reason
  | commandFailed status summary => "Ranker exited with " ++ status ++ ": " ++ summary
  | timedOut seconds => "Ranker timed out after " ++ toString seconds ++ " seconds"
  | invalidOutput reason => "Invalid ranker output: " ++ reason
  | notAnArray kind =>
    "Invalid ranker output: expected an array of scored chunks, got " ++ kind

def CompletionFailure.message : CompletionFailure → String
  | notConfigured =>
    "No completion command configured (set completion.command or REPOQA_COMPLETION_COMMAND)"
  | notStarted command reason =>
    "Failed to start completion command '" ++ command ++ "': " ++ reason
  | commandFailed status summary =>
    "Completion command exited with " ++ status ++ ": " ++ summary
  | timedOut seconds => "Completion timed out after " ++ toString seconds ++ " seconds"
  | emptyResponse => "Completion returned an empty response"

def ConfigFailure.message : ConfigFailure → String
  | loadFailed reason => "Failed to load configuration file: " ++ reason
  | parseFailed reason => "Failed to parse configuration: " ++ reason
  | invalidValue key reason => "Invalid configuration value for '" ++ key ++ "': " ++ reason
  | fileNotFound path => "Configuration file not found: " ++ path

def ValidationFailure.message : ValidationFailure → String
  | empty what => "Empty " ++ what
  | invalidValue what reason => "Invalid value for " ++ what ++ ": " ++ reason

namespace Failure

def message : Failure → String
  | indexing cause => "Indexing error: " ++ cause.message
  | chunking cause => "Chunking error: " ++ cause.message
  | retrieval cause => "Retrieval error: " ++ cause.message
  | completion cause => "Completion error: " ++ cause.message
  | config cause => "Configuration error: " ++ cause.message
  | validation cause => "Validation error: " ++ cause.message
  | json reason => "JSON error: " ++ reason

/-- Whether the operator gave bad input, as opposed to a failure of the system. -/
def isUserError : Failure → Bool
  | validation _ => true
  | config (.invalidValue _ _) => true
  | _ => false

/-- Whether the failure ends an indexing run; the others cost it one file. -/
def isFatal : Failure → Bool
  | chunking _ => false
  | indexing (.fileReadFailed _ _) => false
  | indexing (.fileTooLarge _ _ _) => false
  | _ => true

end Failure

end SourceIndex
