import SourceIndex.Proofs.Ask.Trace
import SourceIndex.Proofs.Config.Layers
import SourceIndex.Proofs.Indexing.Failures

set_option autoImplicit false

namespace SourceIndex

/-- Two collaborators do the same in two worlds, of which the first is the second and more. -/
structure Collaborators.Extends {τ σ : Type} (forget : τ → σ) (large : Collaborators τ)
    (small : Collaborators σ) : Prop where
  rank : ∀ query count world,
    Prod.map id forget (large.rank query count world) = small.rank query count (forget world)
  complete : large.complete = none ∧ small.complete = none ∨
    ∃ answer answer', large.complete = some answer ∧ small.complete = some answer' ∧
      ∀ messages world, Prod.map id forget (answer messages world) = answer' messages (forget world)

theorem Collaborators.Extends.isSome {τ σ : Type} {forget : τ → σ} {large : Collaborators τ}
    {small : Collaborators σ} (larger : large.Extends forget small) :
    large.complete.isSome = small.complete.isSome := by
  rcases larger.complete with ⟨first, second⟩ | ⟨_, _, first, second, -⟩ <;> rw [first, second] <;>
    rfl

theorem ask_of_extends {τ σ : Type} (forget : τ → σ) (large : Collaborators τ)
    (small : Collaborators σ) (larger : large.Extends forget small) (config : Config)
    (query : String) (top : Option Nat) (promptOnly : Bool) (world : τ) :
    Prod.map id forget (ask config large query top promptOnly world) =
      ask config small query top promptOnly (forget world) := by
  simp only [ask, larger.isSome]
  cases Question.check config query top (promptOnly || small.complete.isSome) with
  | error failure => rfl
  | ok question =>
      have ranks := larger.rank question.query question.count world
      simp only [bind, StateT.bind, ← ranks]
      rcases large.rank question.query question.count world with ⟨cause | chunks, after⟩
      · rfl
      · cases promptOnly with
        | true => rfl
        | false =>
            rcases larger.complete with ⟨first, second⟩ | ⟨answer, answer', first, second, answers⟩
            · rw [first, second]
              rfl
            · have completes := answers (Conversation.prompt config.completion.systemPrompt
                question.query chunks) after
              rw [first, second]
              simp only [Bool.false_eq_true, ↓reduceIte, StateT.bind, Prod.map, id_eq]
              rw [← completes]
              rcases answer _ after with ⟨cause | text, last⟩ <;> rfl

/-- The same launcher in a world in which every command that is started is noted, the last one at
the end. -/
def Launcher.noting {σ : Type} (launch : Launcher σ) : Launcher (List CommandCall × σ) :=
  fun call (started, world) =>
    let (left, after) := launch call world
    (left, started ++ [call], after)

/-- To note the commands changes nothing of what the collaborators do. -/
theorem Config.collaborators_noting {σ : Type} (config : Config) (launch : Launcher σ) :
    (config.collaborators (Launcher.noting launch)).Extends Prod.snd
      (config.collaborators launch) := by
  refine ⟨fun _ _ _ => rfl, ?_⟩
  cases command : config.completion.command with
  | none =>
      refine .inl ⟨?_, ?_⟩ <;> simp only [collaborators, CompletionConfig.complete?, command,
        Option.map_none]
  | some name =>
      -- The answers are spelled out, for neither side of the last equation determines them.
      let answer := fun {τ : Type} (launcher : Launcher τ) =>
        CompletionConfig.completeWithin name config.completion.args
          (config.completion.timeoutSecs * 1000) launcher
      refine .inr ⟨answer (Launcher.noting launch), answer launch, ?_, ?_, fun _ _ => rfl⟩ <;>
        simp only [collaborators, CompletionConfig.complete?, command, Option.map_some, answer]

namespace Inquiry

variable {σ : Type} (inquiry : Inquiry σ)

theorem asked_of_userError (failure : Failure) (failed : inquiry.asked.1.result = .error failure)
    (mine : failure.isUserError = true) :
    inquiry.asked = (⟨[], .error failure⟩, inquiry.world) := by
  cases refusal : inquiry.refusal? with
  | some other =>
      have refused := inquiry.asked_of_refusal other refusal
      rw [refused] at failed
      cases failed
      exact refused
  | none =>
      have permitted := inquiry.refusal?_eq_none.mp refusal
      rcases inquiry.asked_cases permitted with ⟨cause, -, -, ended⟩ |
        ⟨chunks, -, ⟨-, -, ended⟩ | ⟨-, made, -, ended⟩⟩
      · rw [ended] at failed
        cases failed
        cases mine
      · rw [ended] at failed
        cases failed
      · rw [ended] at failed
        cases made with
        | error cause =>
            cases failed
            cases mine
        | ok text => cases failed

/-- A blank question, or one for no chunks, is refused as bad input. -/
theorem asked_of_misuse (bad : inquiry.question.query = "" ∨ inquiry.question.count = 0) :
    ∃ failure, inquiry.refusal? = some failure ∧ failure.isUserError = true := by
  by_cases blank : inquiry.question.query = ""
  · exact ⟨_, by simp only [refusal?, refusals, blank, ↓reduceIte]; rfl, rfl⟩
  · have none := bad.resolve_left blank
    exact ⟨_, by simp only [refusal?, refusals, blank, none, ↓reduceIte]; rfl, rfl⟩

end Inquiry

/-- An indexing run does not fail for bad input: it is only begun with valid settings. -/
theorem FileSystem.isUserError_of_index (parse : SyntaxParser) (disk : Stream)
    (files after : FileSystem) (config : IndexingConfig) (root : PathName) (failure : Failure)
    (failed : files.index parse disk config root = (.error failure, after)) :
    failure.isUserError = false := by
  rcases files.failure_cases parse disk config root failure after failed with
    ⟨rfl | rfl, -⟩ | ⟨reason, rfl⟩ | ⟨directory, reason, rfl, -⟩ <;> rfl

/-- A world of which more is known has the files of the world itself. -/
instance {τ σ : Type} [HasFiles σ] : HasFiles (τ × σ) where
  files world := HasFiles.files world.2
  withFiles files world := (world.1, HasFiles.withFiles files world.2)

namespace Program

/-- The same program, with every command noted that it starts. -/
def Setting.noting {σ : Type} (setting : Setting σ) : Setting (List CommandCall × σ) where
  parse := setting.parse
  launch := setting.launch.noting
  disk := setting.disk

/-- How a run ends with what was done. -/
def conclude : Except Failure String → ProgramResult
  | .ok output => ⟨succeeded, output, ""⟩
  | .error failure =>
    ⟨if failure.isUserError then misused else failed, "", line ("error: " ++ failure.message)⟩

theorem conclude_misused (performed : Except Failure String) :
    (conclude performed).status = misused ↔
      ∃ failure, performed = .error failure ∧ failure.isUserError = true := by
  cases performed with
  | ok output => simp [conclude, succeeded, misused]
  | error failure => cases mine : failure.isUserError <;> simp [conclude, failed, misused, mine]

section Worlds

variable {σ : Type} [HasFiles σ] (setting : Setting σ) (environment : Environment)

theorem run_eq (args : List String) (world : σ) :
    run setting environment args world =
      match CommandLine.read environment args with
      | .error refusal => (.error refusal, world)
      | .ok invocation =>
        ((perform setting environment invocation world).1 |> conclude |> .ok,
          (perform setting environment invocation world).2) := by
  rw [run]
  cases CommandLine.read environment args with
  | error refusal => rfl
  | ok invocation =>
      simp only [bind, StateT.bind]
      rcases perform setting environment invocation world with ⟨failure | output, after⟩ <;> rfl

theorem perform_unloaded (invocation : Invocation) (failure : Failure) (world : σ)
    (refused : Config.load (HasFiles.files world) environment invocation.config =
      .error failure) :
    perform setting environment invocation world = (.error failure, world) := by
  simp only [perform, bind, StateT.bind, get, getThe, MonadStateOf.get, StateT.get, pure, refused]
  rfl

def inquiry (config : Config) (words : List String) (top : Option Nat) (promptOnly : Bool)
    (world : σ) : Inquiry σ :=
  ⟨config, config.collaborators setting.launch, " ".intercalate words, top, promptOnly, world⟩

theorem perform_ask (config : Config) (path : Option String) (asJson : Bool)
    (words : List String) (top : Option Nat) (promptOnly : Bool) (world : σ)
    (loaded : Config.load (HasFiles.files world) environment path = .ok config) :
    perform setting environment ⟨path, asJson, .ask words top promptOnly⟩ world =
      let asked := (inquiry setting config words top promptOnly world).asked
      (asked.1.result.map (showAnswer asJson promptOnly), asked.2) := by
  simp only [perform, bind, StateT.bind, get, getThe, MonadStateOf.get, StateT.get, pure, loaded,
    inquiry, Inquiry.asked]
  rcases ask config _ (" ".intercalate words) top promptOnly world with ⟨asked, after⟩
  rfl

theorem perform_index (config : Config) (path : Option String) (asJson : Bool) (root : String)
    (output : Option String) (world : σ)
    (loaded : Config.load (HasFiles.files world) environment path = .ok config) :
    perform setting environment ⟨path, asJson, .index root output⟩ world =
      let indexed := runIndex setting config root output world
      (indexed.1.map (showReport asJson), indexed.2) := by
  simp only [perform, bind, StateT.bind, get, getThe, MonadStateOf.get, StateT.get, pure, loaded]
  rcases runIndex setting config root output world with ⟨report, after⟩
  rfl

theorem perform_noting (invocation : Invocation) (started : List CommandCall) (world : σ) :
    Prod.map id Prod.snd (perform setting.noting environment invocation (started, world)) =
      perform setting environment invocation world := by
  obtain ⟨path, asJson, task⟩ := invocation
  cases loaded : Config.load (HasFiles.files world) environment path with
  | error failure =>
      rw [perform_unloaded setting environment _ failure world loaded,
        perform_unloaded setting.noting environment _ failure (started, world) loaded]
      rfl
  | ok config =>
      cases task with
      | index root output =>
          rw [perform_index setting environment config _ _ _ _ world loaded,
            perform_index setting.noting environment config _ _ _ _ (started, world) loaded]
          simp only [Config.runIndex_eq]
          split <;> rfl
      | ask words top promptOnly =>
          have same := ask_of_extends Prod.snd _ _ (config.collaborators_noting setting.launch)
            config (" ".intercalate words) top promptOnly (started, world)
          rw [perform_ask setting environment config _ _ _ _ _ world loaded,
            perform_ask setting.noting environment config _ _ _ _ _ (started, world) loaded]
          dsimp only at same
          simp only [inquiry, Inquiry.asked, Setting.noting, ← same]
          rcases ask config _ (" ".intercalate words) top promptOnly (started, world) with
            ⟨asked, after⟩
          rfl

theorem run_noting (args : List String) (started : List CommandCall) (world : σ) :
    Prod.map id Prod.snd (run setting.noting environment args (started, world)) =
      run setting environment args world := by
  rw [run_eq, run_eq]
  cases CommandLine.read environment args with
  | error refusal => rfl
  | ok invocation =>
      simp only [← perform_noting setting environment invocation started world]
      rfl

private theorem map_eq_error {α β : Type} {made : Except Failure α} {f : α → β}
    {failure : Failure} (failed : made.map f = .error failure) : made = .error failure := by
  cases made with
  | error cause => exact congrArg Except.error (Except.error.inj failed)
  | ok value => cases failed

theorem perform_of_userError (invocation : Invocation) (failure : Failure) (world after : σ)
    (failed : perform setting environment invocation world = (.error failure, after))
    (mine : failure.isUserError = true) : after = world := by
  obtain ⟨path, asJson, task⟩ := invocation
  cases loaded : Config.load (HasFiles.files world) environment path with
  | error cause =>
      rw [perform_unloaded setting environment _ cause world loaded] at failed
      exact (congrArg Prod.snd failed).symm
  | ok config =>
      cases task with
      | index root output =>
          rw [perform_index setting environment config _ _ _ _ _ loaded,
            Config.runIndex_eq] at failed
          split at failed
          · exact (congrArg Prod.snd failed).symm
          · -- A run that is begun fails for other reasons.
            rcases ran : (HasFiles.files world).index setting.parse setting.disk
              (config.withOutput output).indexing root with ⟨report, files⟩
            rw [ran] at failed
            cases map_eq_error (Prod.mk.inj failed).1
            rw [FileSystem.isUserError_of_index _ _ _ _ _ _ failure ran] at mine
            cases mine
      | ask words top promptOnly =>
          rw [perform_ask setting environment config _ _ _ _ _ _ loaded] at failed
          have untouched := Inquiry.asked_of_userError
            (inquiry setting config words top promptOnly world) failure
          rcases ended : (inquiry setting config words top promptOnly world).asked with
            ⟨asked, left⟩
          rw [ended] at failed untouched
          obtain ⟨first, rfl⟩ := Prod.mk.inj failed
          exact (Prod.mk.inj (untouched (map_eq_error first) mine)).2

end Worlds

/-- A task that makes no sense with some settings: an indexing run whose store makes them invalid,
or a question that is blank or for no chunks. -/
def Misuses (config : Config) : Task → Prop
  | .index _ output => (config.withOutput output).validate ≠ .ok ()
  | .ask words top _ => Text.trimString (" ".intercalate words) = "" ∨ top = some 0

section Worlds

variable {σ : Type} [HasFiles σ] (setting : Setting σ) (environment : Environment)

/-- A task that makes no sense with the settings that are loaded fails as bad input. -/
theorem perform_of_misuses (invocation : Invocation) (config : Config) (world : σ)
    (loaded : Config.load (HasFiles.files world) environment invocation.config = .ok config)
    (bad : Misuses config invocation.task) :
    ∃ failure, (perform setting environment invocation world).1 = .error failure ∧
      failure.isUserError = true := by
  obtain ⟨path, asJson, task⟩ := invocation
  cases task with
  | index root output =>
      have invalid := mt (config.withOutput output).validate_eq_ok.mpr bad
      obtain ⟨cause, fault⟩ := Option.ne_none_iff_exists'.mp invalid
      obtain ⟨key, reason, rfl⟩ := Config.fault?_invalidValue _ cause fault
      refine ⟨.config (.invalidValue key reason), ?_, rfl⟩
      rw [perform_index setting environment config _ _ _ _ _ loaded, Config.runIndex_eq,
        fault]
      rfl
  | ask words top promptOnly =>
      have useless : (inquiry setting config words top promptOnly world).question.query = "" ∨
          (inquiry setting config words top promptOnly world).question.count = 0 := by
        rcases bad with blank | rfl
        · exact .inl blank
        · exact .inr rfl
      obtain ⟨failure, refusal, mine⟩ := Inquiry.asked_of_misuse _ useless
      refine ⟨failure, ?_, mine⟩
      rw [perform_ask setting environment config _ _ _ _ _ _ loaded,
        Inquiry.asked_of_refusal _ failure refusal]
      rfl

/-- The settings below those of the environment: those of the file that is named or of the usual
one, or the defaults if none is named and the usual one is not there. -/
def Supplies (files : FileSystem) (path : Option String) (file : Config) : Prop :=
  Config.Decodes files (Config.source environment path) file ∨
    path = none ∧ files.holds (Config.defaultPath environment) = false ∧ file = {}

/-- The settings that have to be valid, each layer over those before it. -/
def layers (file : Config) : Task → List Config
  | .index _ output =>
    [file, file.layered environment none, file.layered environment output]
  | .ask _ _ _ => [file, file.layered environment none]

theorem load_of_supplies (files : FileSystem) (path : Option String) (file : Config)
    (supplies : Supplies environment files path file) :
    Config.load files environment path = do
      file.validate
      (file.layered environment none).validate
      return file.layered environment none := by
  rw [← Config.withOutput_override, Config.withOutput_none]
  rcases supplies with decodes | ⟨rfl, absent, rfl⟩
  · exact Config.load_of_decodes files environment path file decodes
  · simp only [Config.load, Config.loadOrDefault, absent, Bool.false_eq_true, ↓reduceIte]
    rfl

/-- A task for which some layer of the settings is not valid fails as bad input. -/
theorem perform_of_invalid (invocation : Invocation) (file : Config) (world : σ)
    (supplies : Supplies environment (HasFiles.files world) invocation.config file)
    (bad : ∃ layer ∈ layers environment file invocation.task, layer.validate ≠ .ok ()) :
    ∃ failure, (perform setting environment invocation world).1 = .error failure ∧
      failure.isUserError = true := by
  have load := load_of_supplies environment _ invocation.config file supplies
  have refused : ∀ config : Config, ∀ cause, config.fault? = some cause →
      Failure.isUserError (.config cause) = true := by
    intro config cause fault
    obtain ⟨key, reason, rfl⟩ := config.fault?_invalidValue cause fault
    rfl
  simp only [Config.validate_bind] at load
  cases first : file.fault? with
  | some cause =>
      simp only [first] at load
      rw [perform_unloaded setting environment invocation _ world load]
      exact ⟨_, rfl, refused file cause first⟩
  | none =>
      cases second : (file.layered environment none).fault? with
      | some cause =>
          simp only [first, second] at load
          rw [perform_unloaded setting environment invocation _ world load]
          exact ⟨_, rfl, refused _ cause second⟩
      | none =>
          simp only [first, second] at load
          refine perform_of_misuses setting environment invocation _ world load ?_
          obtain ⟨layer, among, invalid⟩ := bad
          rw [ne_eq, Config.validate_eq_ok] at invalid
          -- Only the last layer of an indexing run is left to be invalid.
          cases wanted : invocation.task with
          | index root output =>
              simp only [layers, wanted, List.mem_cons, List.not_mem_nil, or_false] at among
              rcases among with rfl | rfl | rfl
              · exact absurd first invalid
              · exact absurd second invalid
              · rw [Misuses, ne_eq, Config.validate_eq_ok]
                rwa [← Config.withOutput_override] at invalid ⊢
          | ask words top promptOnly =>
              simp only [layers, wanted, List.mem_cons, List.not_mem_nil, or_false] at among
              rcases among with rfl | rfl
              · exact absurd first invalid
              · exact absurd second invalid

end Worlds

/-- A run that ends with the status of misuse has changed no file, started no command and printed
nothing. It ends so whenever the settings of some layer are not valid, and for every task that
makes no sense with the settings that are loaded. -/
theorem run_misused (setting : Setting FileSystem) (environment : Environment)
    (args : List String) (files : FileSystem) (invocation : Invocation)
    (accepted : CommandLine.read environment args = .ok invocation) :
    ∃ result started after,
      run setting environment args files = (.ok result, after) ∧
      run setting.noting environment args ([], files) = (.ok result, started, after) ∧
      (result.status = misused → after = files ∧ started = [] ∧ result.output = "") ∧
      (∀ config, Config.load files environment invocation.config = .ok config →
        Misuses config invocation.task → result.status = misused) ∧
      ∀ file, Supplies environment files invocation.config file →
        (∃ layer ∈ layers environment file invocation.task, layer.validate ≠ .ok ()) →
        result.status = misused := by
  have same := run_noting setting environment args [] files
  have misuses := perform_of_misuses setting.noting environment invocation
  have invalid := perform_of_invalid setting.noting environment invocation
  rcases ended : perform setting.noting environment invocation ([], files) with
    ⟨performed, started, after⟩
  have noted : run setting.noting environment args ([], files) =
      (.ok (conclude performed), started, after) := by
    simp only [run_eq, accepted, ended]
  rw [noted] at same
  refine ⟨conclude performed, started, after, same.symm, noted, ?_, ?_, ?_⟩
  · intro status
    obtain ⟨failure, rfl, mine⟩ := (conclude_misused performed).mp status
    have untouched := perform_of_userError setting.noting environment invocation failure
      ([], files) _ ended mine
    obtain ⟨rfl, rfl⟩ := Prod.mk.inj untouched
    exact ⟨rfl, rfl, rfl⟩
  · intro config loaded bad
    have failed := misuses config ([], files) loaded bad
    rw [ended] at failed
    exact (conclude_misused performed).mpr failed
  · intro file supplies bad
    have failed := invalid file ([], files) supplies bad
    rw [ended] at failed
    exact (conclude_misused performed).mpr failed

/-- A question that is nothing but blanks, and a ranker that would never end. -/
theorem run_misused_blank :
    let slow : Setting FileSystem :=
      { parse := fun _ _ => default, launch := fun _ files => (.error .timedOut, files) }
    let args := ["ask", " ", "-t", "5"]
    CommandLine.read [] args = .ok ⟨none, false, .ask [" "] (some 5) false⟩ ∧
      ∃ result, result.status = misused ∧ result.output = "" ∧
        run slow [] args Config.settingFiles = (.ok result, Config.settingFiles) ∧
        run slow.noting [] args ([], Config.settingFiles) =
          (.ok result, [], Config.settingFiles) := by
  intro slow args
  have accepted : CommandLine.read [] args = .ok ⟨none, false, .ask [" "] (some 5) false⟩ := by rfl
  obtain ⟨result, started, after, ran, noted, nothing, misuse, -⟩ :=
    run_misused slow [] args Config.settingFiles _ accepted
  have status := misuse {} rfl (.inl rfl)
  obtain ⟨rfl, rfl, silent⟩ := nothing status
  exact ⟨accepted, result, status, silent, ran, noted⟩

end Program

end SourceIndex
