import SourceIndex.Config
import SourceIndex.Json.Shape

set_option autoImplicit false

namespace SourceIndex

def Json.texts (items : List Json) : List String :=
  items.filterMap fun
    | .string text => some text
    | _ => none

namespace IndexingConfig

def toJson (config : IndexingConfig) : Json :=
  .object [
    ("output_path", .string config.outputPath),
    ("max_file_size", .natural config.maxFileSize),
    ("exclude_patterns", .strings config.excludePatterns),
    ("exclude_dirs", .strings config.excludeDirs),
    ("allow_partial_parse", .bool config.allowPartialParse)]

def shape : Shape :=
  let standard : IndexingConfig := {}
  .record "IndexingConfig" <|
    .field "output_path" [] (some (.string standard.outputPath)) .path <|
    .field "max_file_size" [] (some (.natural standard.maxFileSize)) (.word "u64") <|
    .field "exclude_patterns" [] (some (.array [])) (.sequence .text) <|
    .field "exclude_dirs" [] (some (.array [])) (.sequence .text) <|
    .field "allow_partial_parse" [] (some (.bool false)) .flag
      .none

def ofJson? : Json → Option IndexingConfig
  | .object [(_, .string path), (_, .integer size), (_, .array patterns), (_, .array directories),
      (_, .bool tolerant)] =>
    some ⟨path, size.toNat, Json.texts patterns, Json.texts directories, tolerant⟩
  | _ => none

end IndexingConfig

namespace RetrievalConfig

def toJson (config : RetrievalConfig) : Json :=
  .object [
    ("command", .string config.command),
    ("args", .strings config.args),
    ("top_k", .natural config.topK),
    ("timeout_secs", .natural config.timeoutSecs)]

def shape : Shape :=
  let standard : RetrievalConfig := {}
  .record "RetrievalConfig" <|
    .field "command" [] (some (.string standard.command)) .text <|
    .field "args" [] (some (.strings standard.args)) (.sequence .text) <|
    .field "top_k" [] (some (.natural standard.topK)) (.word "usize") <|
    .field "timeout_secs" [] (some (.natural standard.timeoutSecs)) (.word "u64")
      .none

def ofJson? : Json → Option RetrievalConfig
  | .object [(_, .string command), (_, .array args), (_, .integer count),
      (_, .integer seconds)] =>
    some ⟨command, Json.texts args, count.toNat, seconds.toNat⟩
  | _ => none

end RetrievalConfig

namespace CompletionConfig

def toJson (config : CompletionConfig) : Json :=
  .object [
    ("command", Json.ofOption .string config.command),
    ("args", .strings config.args),
    ("timeout_secs", .natural config.timeoutSecs),
    ("system_prompt", .string config.systemPrompt)]

def shape : Shape :=
  let standard : CompletionConfig := {}
  .record "CompletionConfig" <|
    .field "command" [] (some .null) (.optional .text) <|
    .field "args" [] (some (.array [])) (.sequence .text) <|
    .field "timeout_secs" [] (some (.natural standard.timeoutSecs)) (.word "u64") <|
    .field "system_prompt" [] (some (.string standard.systemPrompt)) .text
      .none

def ofJson? : Json → Option CompletionConfig
  | .object [(_, .string command), (_, .array args), (_, .integer seconds),
      (_, .string instructions)] =>
    some ⟨some command, Json.texts args, seconds.toNat, instructions⟩
  | .object [(_, .null), (_, .array args), (_, .integer seconds), (_, .string instructions)] =>
    some ⟨none, Json.texts args, seconds.toNat, instructions⟩
  | _ => none

end CompletionConfig

namespace Config

def toJson (config : Config) : Json :=
  .object [
    ("indexing", config.indexing.toJson),
    ("retrieval", config.retrieval.toJson),
    ("completion", config.completion.toJson)]

def shape : Shape :=
  let standard : Config := {}
  .record "Config" <|
    .field "indexing" [] (some standard.indexing.toJson) IndexingConfig.shape <|
    .field "retrieval" [] (some standard.retrieval.toJson) RetrievalConfig.shape <|
    .field "completion" [] (some standard.completion.toJson) CompletionConfig.shape
      .none

def ofJson? : Json → Option Config
  | .object [(_, indexing), (_, retrieval), (_, completion)] => do
    return ⟨← IndexingConfig.ofJson? indexing, ← RetrievalConfig.ofJson? retrieval,
      ← CompletionConfig.ofJson? completion⟩
  | _ => none

end Config

end SourceIndex
