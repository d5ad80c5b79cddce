import SourceIndex.Program

set_option autoImplicit false

namespace SourceIndex

namespace Config

/-- The settings with the store that the command line names, if it names one. -/
def withOutput (config : Config) (output : Option String) : Config :=
  { config with
    indexing := { config.indexing with outputPath := output.getD config.indexing.outputPath } }

/-- The settings that an indexing run goes by: those that are loaded, with the store that the
command line names, if they are valid. -/
def settle (files : FileSystem) (environment : Environment) (path output : Option String) :
    Except Failure Config := do
  let config ← load files environment path
  (config.withOutput output).validate
  return config.withOutput output

/-- The value of the highest layer that gives one. -/
def highest {α : Type} (layers : List (Option α)) (lowest : α) : α :=
  (layers.findSome? id).getD lowest

/-- The settings of a file under the other layers. -/
def layered (file : Config) (environment : Environment) (output : Option String) : Config where
  indexing := { file.indexing with
    outputPath := highest [output, environment.get? "REPOQA_OUTPUT_PATH"] file.indexing.outputPath
    maxFileSize := highest [(environment.get? "REPOQA_MAX_FILE_SIZE").bind wordOf?]
      file.indexing.maxFileSize }
  retrieval := { file.retrieval with
    command := highest [environment.get? "REPOQA_RANKER_COMMAND"] file.retrieval.command
    topK := highest [(environment.get? "REPOQA_TOP_K").bind wordOf?] file.retrieval.topK }
  completion := { file.completion with
    command := highest [(environment.get? "REPOQA_COMPLETION_COMMAND").map some]
      file.completion.command }

theorem highest_cons {α : Type} (layer : Option α) (layers : List (Option α)) (lowest : α) :
    highest (layer :: layers) lowest = layer.getD (highest layers lowest) := by
  cases layer <;> rfl

theorem withOutput_override (file : Config) (environment : Environment) (output : Option String) :
    (file.override environment).withOutput output = file.layered environment output := by
  simp only [withOutput, override, layered, highest_cons]
  cases environment.get? "REPOQA_COMPLETION_COMMAND" <;> rfl

theorem withOutput_none (config : Config) : config.withOutput none = config := rfl

theorem validate_bind {α : Type} (config : Config) (rest : Except Failure α) :
    (do config.validate; rest) =
      match config.fault? with
      | some cause => .error (.config cause)
      | none => rest := by
  rw [validate]
  cases config.fault? <;> rfl

theorem validate_eq_ok (config : Config) : config.validate = .ok () ↔ config.fault? = none := by
  rw [validate]
  cases config.fault? <;> simp

theorem fault?_invalidValue (config : Config) (cause : ConfigFailure)
    (fault : config.fault? = some cause) : ∃ key reason, cause = .invalidValue key reason := by
  rw [fault?, Option.map_eq_some_iff] at fault
  obtain ⟨⟨wrong, key, reason⟩, -, rfl⟩ := fault
  exact ⟨key, reason, rfl⟩

/-- Where the settings of a file are looked for. -/
def source (environment : Environment) : Option String → PathName
  | some path => path
  | none => defaultPath environment

/-- A file is there, and its text decodes to settings. -/
def Decodes (files : FileSystem) (path : PathName) (file : Config) : Prop :=
  ∃ text, readText files path = .ok text ∧ ofText text = .ok file

theorem holds_of_readText (files : FileSystem) (path : PathName) (text : String)
    (read : readText files path = .ok text) : files.holds path = true := by
  rw [FileSystem.holds]
  rw [readText, FileSystem.read] at read
  cases found : files.find path with
  | ok entry => rfl
  | error fault =>
      rw [found] at read
      cases read

theorem fromFile_of_decodes (files : FileSystem) (path : PathName) (file : Config)
    (decodes : Decodes files path file) :
    fromFile files path = file.validate.map fun _ => file := by
  obtain ⟨text, read, decoded⟩ := decodes
  simp only [fromFile, holds_of_readText files path text read, read, decoded, Bool.not_true,
    Bool.false_eq_true, ↓reduceIte]

theorem load_of_decodes (files : FileSystem) (environment : Environment) (path : Option String)
    (file : Config) (decodes : Decodes files (source environment path) file) :
    load files environment path = do
      file.validate
      (file.override environment).validate
      return file.override environment := by
  have given := fromFile_of_decodes files _ file decodes
  have started : load files environment path = do
      let config ← fromFile files (source environment path)
      (config.override environment).validate
      return config.override environment := by
    cases path with
    | some path => rfl
    | none =>
        obtain ⟨text, read, -⟩ := decodes
        have there := holds_of_readText files _ text read
        simp only [source] at there ⊢
        simp only [load, loadOrDefault, there, ↓reduceIte]
  rw [started, given]
  cases file.validate <;> rfl

/-- The settings are refused for the first layer from below with which they are not valid. -/
theorem settle_of_decodes (files : FileSystem) (environment : Environment)
    (path output : Option String) (file : Config)
    (decodes : Decodes files (source environment path) file) :
    settle files environment path output =
      match [file, file.layered environment none, file.layered environment output].findSome?
        fault? with
      | some cause => .error (.config cause)
      | none => .ok (file.layered environment output) := by
  rw [settle, load_of_decodes files environment path file decodes]
  simp only [← withOutput_override, withOutput_none, validate_bind, List.findSome?_cons,
    List.findSome?_nil]
  cases file.fault? with
  | some cause => rfl
  | none =>
      cases (file.override environment).fault? with
      | some cause => rfl
      | none =>
          simp only [bind, Except.bind, pure, Except.pure]
          cases ((file.override environment).withOutput output).fault? <;> rfl

theorem runIndex_eq {σ : Type} [HasFiles σ] (setting : Program.Setting σ) (config : Config)
    (root : String) (output : Option String) (world : σ) :
    Program.runIndex setting config root output world =
      match (config.withOutput output).fault? with
      | some cause => (.error (.config cause), world)
      | none =>
        let (report, after) := (HasFiles.files world).index setting.parse setting.disk
          (config.withOutput output).indexing root
        (report, HasFiles.withFiles after world) := by
  rw [Program.runIndex]
  simp only [validate]
  rw [← withOutput]
  cases (config.withOutput output).fault? <;> rfl

/-- An indexing run goes by these settings, and does nothing if they are refused. -/
theorem perform_index (setting : Program.Setting FileSystem) (files : FileSystem)
    (environment : Environment) (path output : Option String) (asJson : Bool) (root : String) :
    Program.perform setting environment ⟨path, asJson, .index root output⟩ files =
      match settle files environment path output with
      | .error failure => (.error failure, files)
      | .ok config =>
        let (report, after) := files.index setting.parse setting.disk config.indexing root
        (report.map (Program.showReport asJson), after) := by
  simp only [Program.perform, settle, bind, StateT.bind, get, getThe, MonadStateOf.get, StateT.get,
    pure, HasFiles.files, id_eq]
  cases load files environment path with
  | error failure => rfl
  | ok config =>
      simp only [StateT.bind, bind, runIndex_eq, Except.bind, validate]
      cases (config.withOutput output).fault? <;> rfl

/-- An indexing run has the value of the highest layer for every setting, or is refused: the file
alone, the file with the environment over it, and all layers must be valid. -/
theorem settle_layered (files : FileSystem) (environment : Environment)
    (path output : Option String) (file : Config)
    (decodes : Decodes files (source environment path) file) :
    let merged := file.layered environment output
    let accepted := file.validate = .ok () ∧ (file.layered environment none).validate = .ok () ∧
      merged.validate = .ok ()
    (accepted → settle files environment path output = .ok merged) ∧
    (¬ accepted → ∃ key reason,
      [file, file.layered environment none, merged].findSome? fault? =
        some (.invalidValue key reason) ∧
      settle files environment path output = .error (.config (.invalidValue key reason))) ∧
    ∀ setting asJson root,
      Program.perform setting environment ⟨path, asJson, .index root output⟩ files =
        match settle files environment path output with
        | .error failure => (.error failure, files)
        | .ok config =>
          let (report, after) := files.index setting.parse setting.disk config.indexing root
          (report.map (Program.showReport asJson), after) := by
  intro merged accepted
  have settled := settle_of_decodes files environment path output file decodes
  have free : accepted ↔
      [file, file.layered environment none, merged].findSome? fault? = none := by
    simp only [accepted, validate_eq_ok, List.findSome?_eq_none_iff, List.forall_mem_cons,
      List.not_mem_nil, false_implies, implies_true, and_true]
  refine ⟨?_, ?_, fun setting asJson root => perform_index setting files environment path output
    asJson root⟩
  · intro valid
    rw [settled, free.mp valid]
  · intro refused
    rw [free] at refused
    obtain ⟨cause, first⟩ := Option.ne_none_iff_exists'.mp refused
    obtain ⟨config, -, fault⟩ := List.exists_of_findSome?_eq_some first
    obtain ⟨key, reason, rfl⟩ := config.fault?_invalidValue cause fault
    exact ⟨key, reason, first, by rw [settled, first]⟩

/-- Two files of settings: one sets a count, and one a bound that no file can keep. -/
def settingFiles : FileSystem where
  root := .folder [
    ("count.toml", .file (Text.encode "[retrieval]\ntop_k = 4\n")),
    ("zero.toml", .file (Text.encode "[indexing]\nmax_file_size = 0\n"))]
  workingDirectory := []

private theorem ok_of_toOption {ε α : Type} {made : Except ε α} {value : α}
    (given : made.toOption = some value) : made = .ok value := by
  cases made with
  | error cause => cases given
  | ok other => exact congrArg Except.ok (Option.some.inj given)

theorem settle_layered_count :
    settle settingFiles [("REPOQA_TOP_K", "+7"), ("REPOQA_MAX_FILE_SIZE", "many")]
        (some "count.toml") (some "out.jsonl") =
      .ok { indexing := { outputPath := "out.jsonl" }, retrieval := { topK := 7 } } := by
  have decodes : Decodes settingFiles "count.toml" { retrieval := { topK := 4 } } :=
    ⟨"[retrieval]\ntop_k = 4\n", ok_of_toOption (by decide +kernel),
      ok_of_toOption (by decide +kernel)⟩
  refine (settle_layered settingFiles _ (some "count.toml") (some "out.jsonl") _ decodes).1 ?_
  simp only [validate_eq_ok]
  decide +kernel

/-- The environment gives a bound that is valid, yet the run is refused for the bound of the
file. -/
theorem settle_overridden_zero :
    Decodes settingFiles "zero.toml" { indexing := { maxFileSize := 0 } } ∧
      (layered { indexing := { maxFileSize := 0 } } [("REPOQA_MAX_FILE_SIZE", "5")] none).validate =
        .ok () ∧
      settle settingFiles [("REPOQA_MAX_FILE_SIZE", "5")] (some "zero.toml") none =
        .error (.config (.invalidValue "indexing.max_file_size" "must be greater than 0")) := by
  have decodes : Decodes settingFiles "zero.toml" { indexing := { maxFileSize := 0 } } :=
    ⟨"[indexing]\nmax_file_size = 0\n", ok_of_toOption (by decide +kernel),
      ok_of_toOption (by decide +kernel)⟩
  refine ⟨decodes, ?_, ?_⟩
  · rw [validate_eq_ok]
    decide +kernel
  · rw [settle_of_decodes settingFiles _ (some "zero.toml") none _ decodes]
    rfl

end Config

end SourceIndex
