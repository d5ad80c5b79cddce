import SourceIndex.Config.Written
import SourceIndex.Language.Written
import SourceIndex.Proofs.Json.Conforming
import SourceIndex.Report

set_option autoImplicit false

namespace SourceIndex

/-- How values of a type are given as records, and which values fit them. -/
structure Format (α : Type) where
  shape : Shape
  write : α → Json
  read? : Json → Option α
  InRange : α → Prop

namespace Format

variable {α : Type} (format : Format α)

def encode (layout : Json.Layout) (value : α) : String :=
  String.ofList ((format.write value).render layout)

def decode? (text : String) : Option α :=
  (Json.parseAs format.shape text).toOption.bind format.read?

/-- Values come back from their texts, and those that any text gives do so too. No text that is
accepted is left without a value. -/
structure Faithful : Prop where
  back (value : α) (fits : format.InRange value) (layout : Json.Layout) :
    format.decode? (format.encode layout value) = some value
  again (text : String) (value : α) (given : format.decode? text = some value)
    (layout : Json.Layout) : format.decode? (format.encode layout value) = some value
  accepted (text : String) (record : Json) (read : Json.parseAs format.shape text = .ok record) :
    ∃ value, format.decode? text = some value

/-- The records of a format are the values that conform to its shape. -/
structure Lawful : Prop where
  proper : format.shape.Proper
  exact : format.shape.ExactWithin Json.depthLimit
  written (value : α) (fits : format.InRange value) :
    Json.Conforms format.shape (format.write value)
  origin (record : Json) (conforming : Json.Conforms format.shape record) :
    ∃ value, format.InRange value ∧ format.write value = record
  back (value : α) : format.read? (format.write value) = some value

variable {format}

theorem Lawful.decode?_eq (lawful : format.Lawful) {text : String} {record : Json}
    (read : Json.parseAs format.shape text = .ok record) :
    ∃ value, format.InRange value ∧ format.decode? text = some value := by
  obtain ⟨value, fits, rfl⟩ := lawful.origin record (Json.parseAs_conforms lawful.proper read)
  refine ⟨value, fits, ?_⟩
  rw [decode?, read, Except.toOption, Option.bind_some, lawful.back]

theorem Lawful.decode?_encode (lawful : format.Lawful) {value : α} (fits : format.InRange value)
    (layout : Json.Layout) : format.decode? (format.encode layout value) = some value := by
  have read := Json.parseAs_render_of_conforms lawful.proper lawful.exact
    (lawful.written value fits) layout
  rw [decode?, encode, read, Except.toOption, Option.bind_some, lawful.back]

theorem Lawful.faithful (lawful : format.Lawful) : format.Faithful where
  back value fits layout := lawful.decode?_encode fits layout
  again text value given layout := by
    cases read : Json.parseAs format.shape text with
    | error fault =>
        rw [decode?, read] at given
        cases given
    | ok record =>
        obtain ⟨other, fits, same⟩ := lawful.decode?_eq read
        cases same.symm.trans given
        exact lawful.decode?_encode fits layout
  accepted text record read := by
    obtain ⟨value, -, given⟩ := lawful.decode?_eq read
    exact ⟨value, given⟩

def list (format : Format α) : Format (List α) where
  shape := .sequence format.shape
  write values := .array (values.map format.write)
  read?
    | .array items => items.mapM format.read?
    | _ => none
  InRange values := ∀ value ∈ values, format.InRange value

theorem Lawful.list (lawful : format.Lawful)
    (exact' : format.shape.ExactWithin (Json.depthLimit - 1)) : format.list.Lawful where
  proper := lawful.proper
  exact := ⟨by decide, exact'⟩
  written values fits := by
    refine ⟨_, rfl, fun item member => ?_⟩
    obtain ⟨value, inside, rfl⟩ := List.mem_map.mp member
    exact lawful.written value (fits value inside)
  origin record conforming := by
    obtain ⟨items, rfl, each⟩ := conforming
    induction items with
    | nil => exact ⟨[], List.forall_mem_nil _, rfl⟩
    | cons item items ih =>
        obtain ⟨here, later⟩ := List.forall_mem_cons.mp each
        obtain ⟨value, fits, rfl⟩ := lawful.origin item here
        obtain ⟨values, others, same⟩ := ih later
        cases same
        exact ⟨value :: values, List.forall_mem_cons.mpr ⟨fits, others⟩, rfl⟩
  back values := by
    show (values.map format.write).mapM format.read? = some values
    induction values with
    | nil => rfl
    | cons value values ih =>
        rw [List.map_cons, List.mapM_cons, lawful.back, ih]
        rfl

end Format

theorem conforms_strings_iff (record : Json) :
    Json.Conforms (.sequence .text) record ↔ ∃ texts, record = .strings texts := by
  constructor
  · rintro ⟨items, rfl, each⟩
    induction items with
    | nil => exact ⟨[], rfl⟩
    | cons item items ih =>
        obtain ⟨⟨text, rfl⟩, later⟩ := List.forall_mem_cons.mp each
        obtain ⟨texts, same⟩ := ih later
        cases same
        exact ⟨text :: texts, rfl⟩
  · rintro ⟨texts, rfl⟩
    refine ⟨_, rfl, fun item member => ?_⟩
    obtain ⟨text, -, rfl⟩ := List.mem_map.mp member
    exact ⟨text, rfl⟩

theorem conforms_optional_iff (record : Json) :
    Json.Conforms (.optional .text) record ↔ ∃ text, record = Json.ofOption .string text := by
  constructor
  · rintro (rfl | ⟨text, rfl⟩)
    · exact ⟨none, rfl⟩
    · exact ⟨some text, rfl⟩
  · rintro ⟨_ | text, rfl⟩
    · exact .inl rfl
    · exact .inr ⟨text, rfl⟩

theorem texts_map_string (texts : List String) : Json.texts (texts.map .string) = texts := by
  induction texts with
  | nil => rfl
  | cons text texts ih => exact congrArg (text :: ·) ih

theorem filterMap_text? (texts : List String) :
    (texts.map Json.string).filterMap IndexReport.text? = texts := by
  induction texts with
  | nil => rfl
  | cons text texts ih => exact congrArg (text :: ·) ih

def Language.format : Format Language where
  shape := Language.shape
  write language := .string language.id
  read?
    | .string id => Language.ofId? id
    | _ => none
  InRange _ := True

theorem Language.lawful : Language.format.Lawful where
  proper := trivial
  exact := trivial
  written language _ :=
    ⟨language.id, List.mem_map_of_mem (by cases language <;> decide), rfl⟩
  origin record conforming := by
    obtain ⟨id, member, rfl⟩ := conforming
    obtain ⟨language, -, rfl⟩ := List.mem_map.mp member
    exact ⟨language, trivial, rfl⟩
  back := Language.ofId?_id

def Message.format : Format Message where
  shape := Message.shape
  write := Message.toJson
  read? := Message.ofJson?
  InRange _ := True

/-- The completion is given the messages in one line. -/
example (messages : List Message) :
    Message.format.list.encode none messages = (Conversation.toJson messages).compact := rfl

theorem Message.shallow : Message.format.shape.ExactWithin (Json.depthLimit - 1) := by
  simp [format, shape, Shape.ExactWithin, Fields.ExactWithin, Json.depthLimit]

theorem Message.lawful : Message.format.Lawful where
  proper := by
    simp [format, shape, Shape.Proper, Fields.Proper, Fields.names]
  exact := by
    simp [format, shape, Shape.ExactWithin, Fields.ExactWithin, Json.depthLimit]
  written message _ :=
    ⟨_, rfl, _, _, rfl, ⟨_, by cases message.role <;> simp, rfl⟩, _, _, rfl, ⟨_, rfl⟩, rfl⟩
  origin record conforming := by
    obtain ⟨_, rfl, _, _, rfl, ⟨role, member, rfl⟩, _, _, rfl, ⟨content, rfl⟩, rfl⟩ := conforming
    rcases List.mem_cons.mp member with rfl | member
    · exact ⟨⟨.system, content⟩, trivial, rfl⟩
    · cases List.mem_singleton.mp member
      exact ⟨⟨.user, content⟩, trivial, rfl⟩
  back message := by
    obtain ⟨⟨⟩ | ⟨⟩, content⟩ := message <;> rfl

namespace IndexReport

/-- The numbers of a summary fit a word. -/
structure InWords (report : IndexReport) : Prop where
  filesIndexed : report.filesIndexed < Json.wordLimit
  filesSkipped : report.filesSkipped < Json.wordLimit
  chunksWritten : report.chunksWritten < Json.wordLimit
  emptyChunksDropped : report.emptyChunksDropped < Json.wordLimit
  durationMs : report.durationMs < Json.wordLimit

def format : Format IndexReport := ⟨shape, toJson, ofJson?, InWords⟩

theorem lawful : format.Lawful where
  proper := by
    simp [format, shape, Shape.Proper, Fields.Proper, Fields.names, Json.Conforms]
  exact := by
    simp [format, shape, Shape.ExactWithin, Fields.ExactWithin, Json.depthLimit]
  written report words :=
    ⟨_, rfl, _, _, rfl, ⟨_, words.filesIndexed, rfl⟩, _, _, rfl, ⟨_, words.filesSkipped, rfl⟩,
      _, _, rfl, ⟨_, words.chunksWritten, rfl⟩, _, _, rfl, ⟨_, words.emptyChunksDropped, rfl⟩,
      _, _, rfl, (conforms_strings_iff _).mpr ⟨_, rfl⟩, _, _, rfl, ⟨_, words.durationMs, rfl⟩,
      _, _, rfl, ⟨_, rfl⟩, rfl⟩
  origin record conforming := by
    obtain ⟨_, rfl, _, _, rfl, ⟨indexed, indexedFits, rfl⟩, _, _, rfl, ⟨skipped, skippedFits, rfl⟩,
      _, _, rfl, ⟨written, writtenFits, rfl⟩, _, _, rfl, ⟨dropped, droppedFits, rfl⟩,
      _, _, rfl, listed, _, _, rfl, ⟨duration, durationFits, rfl⟩,
      _, _, rfl, ⟨path, rfl⟩, rfl⟩ := conforming
    obtain ⟨errors, rfl⟩ := (conforms_strings_iff _).mp listed
    exact ⟨⟨indexed, skipped, written, dropped, errors, duration, path⟩,
      ⟨indexedFits, skippedFits, writtenFits, droppedFits, durationFits⟩, rfl⟩
  back report := by
    simp only [format, toJson, Json.natural, Json.strings, ofJson?, Int.toNat_natCast,
      filterMap_text?]

end IndexReport

namespace IndexingConfig

/-- The number of the settings fits a word. -/
structure InWords (config : IndexingConfig) : Prop where
  maxFileSize : config.maxFileSize < Json.wordLimit

def format : Format IndexingConfig := ⟨shape, toJson, ofJson?, InWords⟩

theorem lawful : format.Lawful where
  proper := by
    refine ⟨trivial, ?_, by decide, trivial, ?_, by decide, trivial, ?_, by decide, trivial, ?_,
      by decide, trivial, ?_, by decide, trivial⟩
    all_goals rintro _ ⟨⟩
    · exact ⟨_, rfl⟩
    · exact ⟨_, by decide, rfl⟩
    · exact (conforms_strings_iff _).mpr ⟨[], rfl⟩
    · exact (conforms_strings_iff _).mpr ⟨[], rfl⟩
    · exact ⟨_, rfl⟩
  exact := by
    simp [format, shape, Shape.ExactWithin, Fields.ExactWithin, Json.depthLimit]
  written config words :=
    ⟨_, rfl, _, _, rfl, ⟨_, rfl⟩, _, _, rfl, ⟨_, words.maxFileSize, rfl⟩,
      _, _, rfl, (conforms_strings_iff _).mpr ⟨_, rfl⟩,
      _, _, rfl, (conforms_strings_iff _).mpr ⟨_, rfl⟩, _, _, rfl, ⟨_, rfl⟩, rfl⟩
  origin record conforming := by
    obtain ⟨_, rfl, _, _, rfl, ⟨path, rfl⟩, _, _, rfl, ⟨size, fits, rfl⟩, _, _, rfl, parts,
      _, _, rfl, names, _, _, rfl, ⟨tolerant, rfl⟩, rfl⟩ := conforming
    obtain ⟨patterns, rfl⟩ := (conforms_strings_iff _).mp parts
    obtain ⟨directories, rfl⟩ := (conforms_strings_iff _).mp names
    exact ⟨⟨path, size, patterns, directories, tolerant⟩, ⟨fits⟩, rfl⟩
  back config := by
    simp only [format, toJson, Json.natural, Json.strings, ofJson?, Int.toNat_natCast,
      texts_map_string]

end IndexingConfig

namespace RetrievalConfig

/-- The numbers of the settings fit a word. -/
structure InWords (config : RetrievalConfig) : Prop where
  topK : config.topK < Json.wordLimit
  timeoutSecs : config.timeoutSecs < Json.wordLimit

def format : Format RetrievalConfig := ⟨shape, toJson, ofJson?, InWords⟩

theorem lawful : format.Lawful where
  proper := by
    refine ⟨trivial, ?_, by decide, trivial, ?_, by decide, trivial, ?_, by decide, trivial, ?_,
      by decide, trivial⟩
    all_goals rintro _ ⟨⟩
    · exact ⟨_, rfl⟩
    · exact (conforms_strings_iff _).mpr ⟨_, rfl⟩
    · exact ⟨_, by decide, rfl⟩
    · exact ⟨_, by decide, rfl⟩
  exact := by
    simp [format, shape, Shape.ExactWithin, Fields.ExactWithin, Json.depthLimit]
  written config words :=
    ⟨_, rfl, _, _, rfl, ⟨_, rfl⟩, _, _, rfl, (conforms_strings_iff _).mpr ⟨_, rfl⟩,
      _, _, rfl, ⟨_, words.topK, rfl⟩, _, _, rfl, ⟨_, words.timeoutSecs, rfl⟩, rfl⟩
  origin record conforming := by
    obtain ⟨_, rfl, _, _, rfl, ⟨command, rfl⟩, _, _, rfl, listed, _, _, rfl,
      ⟨count, countFits, rfl⟩, _, _, rfl, ⟨seconds, secondsFit, rfl⟩, rfl⟩ := conforming
    obtain ⟨args, rfl⟩ := (conforms_strings_iff _).mp listed
    exact ⟨⟨command, args, count, seconds⟩, ⟨countFits, secondsFit⟩, rfl⟩
  back config := by
    simp only [format, toJson, Json.natural, Json.strings, ofJson?, Int.toNat_natCast,
      texts_map_string]

end RetrievalConfig

namespace CompletionConfig

/-- The number of the settings fits a word. -/
structure InWords (config : CompletionConfig) : Prop where
  timeoutSecs : config.timeoutSecs < Json.wordLimit

def format : Format CompletionConfig := ⟨shape, toJson, ofJson?, InWords⟩

theorem lawful : format.Lawful where
  proper := by
    refine ⟨trivial, ?_, by decide, trivial, ?_, by decide, trivial, ?_, by decide, trivial, ?_,
      by decide, trivial⟩
    all_goals rintro _ ⟨⟩
    · exact .inl rfl
    · exact (conforms_strings_iff _).mpr ⟨[], rfl⟩
    · exact ⟨_, by decide, rfl⟩
    · exact ⟨_, rfl⟩
  exact := by
    simp [format, shape, Shape.ExactWithin, Fields.ExactWithin, Json.depthLimit]
  written config words :=
    ⟨_, rfl, _, _, rfl, (conforms_optional_iff _).mpr ⟨_, rfl⟩,
      _, _, rfl, (conforms_strings_iff _).mpr ⟨_, rfl⟩, _, _, rfl, ⟨_, words.timeoutSecs, rfl⟩,
      _, _, rfl, ⟨_, rfl⟩, rfl⟩
  origin record conforming := by
    obtain ⟨_, rfl, _, _, rfl, given, _, _, rfl, listed, _, _, rfl, ⟨seconds, fits, rfl⟩,
      _, _, rfl, ⟨instructions, rfl⟩, rfl⟩ := conforming
    obtain ⟨command, rfl⟩ := (conforms_optional_iff _).mp given
    obtain ⟨args, rfl⟩ := (conforms_strings_iff _).mp listed
    exact ⟨⟨command, args, seconds, instructions⟩, ⟨fits⟩, rfl⟩
  back config := by
    obtain ⟨command, args, seconds, instructions⟩ := config
    cases command <;>
      simp only [format, toJson, Json.ofOption, Json.natural, Json.strings, ofJson?,
        Int.toNat_natCast, texts_map_string]

end CompletionConfig

namespace Config

/-- The numbers of the settings fit a word. -/
structure InWords (config : Config) : Prop where
  indexing : config.indexing.InWords
  retrieval : config.retrieval.InWords
  completion : config.completion.InWords

def format : Format Config := ⟨shape, toJson, ofJson?, InWords⟩

theorem lawful : format.Lawful where
  proper := by
    refine ⟨IndexingConfig.lawful.proper, ?_, by decide, RetrievalConfig.lawful.proper, ?_,
      by decide, CompletionConfig.lawful.proper, ?_, by decide, trivial⟩
    all_goals rintro _ ⟨⟩
    · exact IndexingConfig.lawful.written {} ⟨by decide⟩
    · exact RetrievalConfig.lawful.written {} ⟨by decide, by decide⟩
    · exact CompletionConfig.lawful.written {} ⟨by decide⟩
  exact := by
    simp [format, shape, IndexingConfig.shape, RetrievalConfig.shape, CompletionConfig.shape,
      Shape.ExactWithin, Fields.ExactWithin, Json.depthLimit]
  written config words :=
    ⟨_, rfl, _, _, rfl, IndexingConfig.lawful.written _ words.indexing,
      _, _, rfl, RetrievalConfig.lawful.written _ words.retrieval,
      _, _, rfl, CompletionConfig.lawful.written _ words.completion, rfl⟩
  origin record conforming := by
    obtain ⟨_, rfl, _, _, rfl, first, _, _, rfl, second, _, _, rfl, third, rfl⟩ := conforming
    obtain ⟨indexing, indexingFits, rfl⟩ := IndexingConfig.lawful.origin _ first
    obtain ⟨retrieval, retrievalFits, rfl⟩ := RetrievalConfig.lawful.origin _ second
    obtain ⟨completion, completionFits, rfl⟩ := CompletionConfig.lawful.origin _ third
    exact ⟨⟨indexing, retrieval, completion⟩, ⟨indexingFits, retrievalFits, completionFits⟩, rfl⟩
  back config := by
    have indexing := IndexingConfig.lawful.back config.indexing
    have retrieval := RetrievalConfig.lawful.back config.retrieval
    have completion := CompletionConfig.lawful.back config.completion
    simp only [IndexingConfig.format, RetrievalConfig.format, CompletionConfig.format] at *
    simp only [format, toJson, ofJson?, indexing, retrieval, completion]
    rfl

end Config

/-- What the program writes of messages, of summaries, of settings and of languages is read back,
and whatever is read as one of them is read again from its own text. -/
theorem formats_faithful :
    Message.format.Faithful ∧ Message.format.list.Faithful ∧ IndexReport.format.Faithful ∧
      Config.format.Faithful ∧ Language.format.Faithful :=
  ⟨Message.lawful.faithful, (Message.lawful.list Message.shallow).faithful,
    IndexReport.lawful.faithful, Config.lawful.faithful, Language.lawful.faithful⟩

end SourceIndex
