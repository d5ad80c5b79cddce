import SourceIndex.Program
import SourceIndex.Shell.Launch
import SourceIndex.Snapshot
import SourceIndex.Syntax.Reading

set_option autoImplicit false

namespace SourceIndex.Main

def bindings : List String :=
  ["HOME", "XDG_CONFIG_HOME", "REPOQA_CONFIG", "REPOQA_OUTPUT_PATH", "REPOQA_MAX_FILE_SIZE",
    "REPOQA_RANKER_COMMAND", "REPOQA_TOP_K", "REPOQA_COMPLETION_COMMAND"]

def environment : IO Environment :=
  bindings.filterMapM fun name => do
    return (← IO.getEnv name).map fun value => (name, value)

partial def readLines (input : IO.FS.Stream) (found : Array String) : IO (Array String) := do
  let line ← input.getLine
  if line.isEmpty then return found else readLines input (found.push line)

def run (args : List String) : IO UInt32 := do
  let lines ← readLines (← IO.getStdin) #[]
  match Snapshot.read lines.toList with
  | .error reason =>
    IO.eprintln reason
    return Program.failed.toUInt32
  | .ok files =>
    let (result, after) :=
      Program.run { parse := Language.syntaxTree, launch := Shell.launch } (← environment) args
        files
    match result with
    | .error .help => return Program.succeeded.toUInt32
    | .error .usage =>
      IO.eprintln "usage: index ROOT [-o FILE] | ask WORD... [-t COUNT] [--prompt-only]"
      return Program.misused.toUInt32
    | .ok result =>
      IO.print result.output
      IO.eprint result.complaint
      for record in Snapshot.changes files after do
        IO.println record.toJson.compact
      return result.status.toUInt32

end SourceIndex.Main

def main (args : List String) : IO UInt32 := SourceIndex.Main.run args
