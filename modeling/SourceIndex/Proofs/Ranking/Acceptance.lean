import Mathlib.Data.List.Forall2
import SourceIndex.Command
import SourceIndex.Proofs.Json.Conforming
import SourceIndex.Proofs.Json.Conversion
import SourceIndex.Proofs.Text.Trimming

set_option autoImplicit false

namespace SourceIndex

namespace RankedChunk

open Json

/-- A number, and the number of 32 bits nearest to it. -/
inductive Narrows : Json → Floating → Prop
  | integer (value : Int) : Narrows (.integer value) (FloatFormat.single.ofInt value)
  | double (value : Floating) : Narrows (.double value) (FloatFormat.single.convert value)

/-- The fields of a chunk in an object, given by the value of each name: every field stands under
exactly one of its names. -/
structure InObject (lookup : String → Option Json) (chunk : RankedChunk) : Prop where
  id : Under ["id", "ID"] lookup (.string chunk.id)
  file : Under ["file", "File"] lookup (.string chunk.file)
  code : Under ["code", "Code"] lookup (.string chunk.code)
  score : ∃ number, Under ["score", "Score"] lookup number ∧ Narrows number chunk.score

/-- What a chunk is read from: an object in which other names than those of the fields do not count,
or a list of just the fields. -/
inductive Records : Json → RankedChunk → Prop
  | object (members : List (String × Json)) (chunk : RankedChunk)
      (fields : InObject (fun name => member? name (.object members)) chunk) :
      Records (.object members) chunk
  | list (id file code : String) (number : Json) (score : Floating)
      (narrowed : Narrows number score) :
      Records (.array [.string id, .string file, .string code, number]) ⟨id, file, code, score⟩

theorem conform_text_iff (value given : Json) :
    conform .text value = .ok given ↔ ∃ text, value = .string text ∧ given = .string text := by
  cases value <;> simp [conform, conformText, eq_comm]

theorem conform_single_iff (value given : Json) (readable : Readable value) :
    conform .single value = .ok given ↔
      ∃ score, Narrows value score ∧ given = .single score := by
  constructor
  · intro taken
    cases value with
    | integer value =>
        cases taken
        exact ⟨_, .integer value, rfl⟩
    | double value =>
        cases taken
        exact ⟨_, .double value, rfl⟩
    | single value =>
        cases readable with
        | number _ numeric => cases numeric
    | _ => cases taken
  · rintro ⟨score, narrowed, rfl⟩
    cases narrowed <;> rfl

def fields : Fields :=
  .field "id" ["ID"] none .text <|
  .field "file" ["File"] none .text <|
  .field "code" ["Code"] none .text <|
  .field "score" ["Score"] none .single
    .none

def taker : FieldTaker := fun key => conformField fields key

theorem goesBy_id : GoesBy taker "id" ["id", "ID"] (conform .text) :=
  goesBy_first "id" ["ID"] none .text _ (by decide)

theorem goesBy_file : GoesBy taker "file" ["file", "File"] (conform .text) :=
  goesBy_later "id" ["ID"] none .text _
    (goesBy_first "file" ["File"] none .text _ (by decide)) (by decide) (by decide)

theorem goesBy_code : GoesBy taker "code" ["code", "Code"] (conform .text) :=
  goesBy_later "id" ["ID"] none .text _
    (goesBy_later "file" ["File"] none .text _
      (goesBy_first "code" ["Code"] none .text _ (by decide)) (by decide) (by decide))
    (by decide) (by decide)

theorem goesBy_score : GoesBy taker "score" ["score", "Score"] (conform .single) :=
  goesBy_later "id" ["ID"] none .text _
    (goesBy_later "file" ["File"] none .text _
      (goesBy_later "code" ["Code"] none .text _
        (goesBy_first "score" ["Score"] none .single _ (by decide)) (by decide) (by decide))
      (by decide) (by decide))
    (by decide) (by decide)

theorem complete_iff {found record : List (String × Json)} (once : (found.map (·.1)).Nodup) :
    complete fields found = .ok record ↔ ∃ id file code score,
      record = [("id", id), ("file", file), ("code", code), ("score", score)] ∧
        ("id", id) ∈ found ∧ ("file", file) ∈ found ∧ ("code", code) ∈ found ∧
          ("score", score) ∈ found := by
  constructor
  · intro completed
    obtain ⟨id, _, rfl, atId, completed⟩ := (complete_required_iff rfl once).mp completed
    obtain ⟨file, _, rfl, atFile, completed⟩ := (complete_required_iff rfl once).mp completed
    obtain ⟨code, _, rfl, atCode, completed⟩ := (complete_required_iff rfl once).mp completed
    obtain ⟨score, _, rfl, atScore, completed⟩ := (complete_required_iff rfl once).mp completed
    cases completed
    exact ⟨id, file, code, score, rfl, atId, atFile, atCode, atScore⟩
  · rintro ⟨id, file, code, score, rfl, atId, atFile, atCode, atScore⟩
    exact (complete_required_iff rfl once).mpr ⟨id, _, rfl, atId,
      (complete_required_iff rfl once).mpr ⟨file, _, rfl, atFile,
        (complete_required_iff rfl once).mpr ⟨code, _, rfl, atCode,
          (complete_required_iff rfl once).mpr ⟨score, _, rfl, atScore, rfl⟩⟩⟩⟩

/-- An object is taken as the chunk that its members give, whatever else is in it. -/
theorem conform_object_iff (members : List (String × Json)) (ordered : Ordered members)
    (readable : ∀ member ∈ members, Readable member.2) (record : Json) :
    conform shape (.object members) = .ok record ↔
      ∃ chunk, InObject (fun name => member? name (.object members)) chunk ∧
        record = chunk.toJson := by
  have held (names : List String) (value : Json)
      (under : Under names (fun name => member? name (.object members)) value) :
      Readable value := by
    obtain ⟨name, -, stands, -⟩ := under
    exact readable _ ((member?_eq_some_iff ordered name value).mp stands)
  constructor
  · intro taken
    obtain ⟨after, within, taken⟩ := bind_eq_ok.mp taken
    obtain ⟨whole, completed, same⟩ := bind_eq_ok.mp taken
    cases same
    obtain ⟨found, gives, once, -, rfl⟩ := (conformMembers_eq_ok_iff taker [] after).mp within
    rw [List.append_nil] at completed
    have reversed : (found.reverse.map (·.1)).Nodup := by
      rw [List.map_reverse]
      exact (List.reverse_perm _).nodup_iff.mpr once
    obtain ⟨id, file, code, score, rfl, atId, atFile, atCode, atScore⟩ :=
      (complete_iff reversed).mp completed
    rw [List.mem_reverse] at atId atFile atCode atScore
    obtain ⟨value, underId, taken⟩ := (gives.field_iff ordered once goesBy_id id).mp atId
    obtain ⟨id, rfl, rfl⟩ := (conform_text_iff value _).mp taken
    obtain ⟨value, underFile, taken⟩ := (gives.field_iff ordered once goesBy_file file).mp atFile
    obtain ⟨file, rfl, rfl⟩ := (conform_text_iff value _).mp taken
    obtain ⟨value, underCode, taken⟩ := (gives.field_iff ordered once goesBy_code code).mp atCode
    obtain ⟨code, rfl, rfl⟩ := (conform_text_iff value _).mp taken
    obtain ⟨number, underScore, taken⟩ :=
      (gives.field_iff ordered once goesBy_score score).mp atScore
    obtain ⟨score, narrowed, rfl⟩ :=
      (conform_single_iff number _ (held _ number underScore)).mp taken
    exact ⟨⟨id, file, code, score⟩, ⟨underId, underFile, underCode, number, underScore, narrowed⟩,
      rfl⟩
  · rintro ⟨chunk, ⟨underId, underFile, underCode, number, underScore, narrowed⟩, rfl⟩
    have taken : conform .single number = .ok (.single chunk.score) :=
      (conform_single_iff number _ (held _ number underScore)).mpr ⟨_, narrowed, rfl⟩
    obtain ⟨found, gives, once⟩ := exists_gives_once taker ordered
      fun key own take known => by
        have listed := mem_names_of_conformField known
        simp only [fields, Fields.names, List.mem_cons, List.not_mem_nil, or_false] at listed
        rcases listed with rfl | rfl | rfl | rfl
        · cases known.symm.trans (goesBy_id.known key (goesBy_id.only key take known))
          exact ⟨_, _, _, goesBy_id, underId, rfl⟩
        · cases known.symm.trans (goesBy_file.known key (goesBy_file.only key take known))
          exact ⟨_, _, _, goesBy_file, underFile, rfl⟩
        · cases known.symm.trans (goesBy_code.known key (goesBy_code.only key take known))
          exact ⟨_, _, _, goesBy_code, underCode, rfl⟩
        · cases known.symm.trans (goesBy_score.known key (goesBy_score.only key take known))
          exact ⟨_, _, _, goesBy_score, underScore, taken⟩
    have within := (conformMembers_eq_ok_iff taker [] _).mpr
      ⟨found, gives, once, fun _ _ => List.not_mem_nil, rfl⟩
    have reversed : (found.reverse.map (·.1)).Nodup := by
      rw [List.map_reverse]
      exact (List.reverse_perm _).nodup_iff.mpr once
    have completed := (complete_iff reversed).mpr ⟨_, _, _, _, rfl,
      List.mem_reverse.mpr ((gives.field_iff ordered once goesBy_id _).mpr ⟨_, underId, rfl⟩),
      List.mem_reverse.mpr ((gives.field_iff ordered once goesBy_file _).mpr ⟨_, underFile, rfl⟩),
      List.mem_reverse.mpr ((gives.field_iff ordered once goesBy_code _).mpr ⟨_, underCode, rfl⟩),
      List.mem_reverse.mpr
        ((gives.field_iff ordered once goesBy_score _).mpr ⟨_, underScore, taken⟩)⟩
    rw [List.append_nil] at within
    exact bind_eq_ok.mpr ⟨_, within, bind_eq_ok.mpr ⟨_, completed, rfl⟩⟩

theorem conform_list_iff (items : List Json) (readable : ∀ item ∈ items, Readable item)
    (record : Json) :
    conform shape (.array items) = .ok record ↔
      ∃ chunk, Records (.array items) chunk ∧ record = chunk.toJson := by
  constructor
  · intro taken
    obtain ⟨⟨whole, left⟩, inOrder, taken⟩ := bind_eq_ok.mp taken
    obtain ⟨id, _, _, _, rfl, takenId, afterId, rfl⟩ :=
      (conformInOrder_required_iff _ _ _ _ _ _ _ _ _).mp inOrder
    obtain ⟨file, _, _, _, rfl, takenFile, afterFile, rfl⟩ :=
      (conformInOrder_required_iff _ _ _ _ _ _ _ _ _).mp afterId
    obtain ⟨code, _, _, _, rfl, takenCode, afterCode, rfl⟩ :=
      (conformInOrder_required_iff _ _ _ _ _ _ _ _ _).mp afterFile
    obtain ⟨number, _, _, _, rfl, takenScore, afterScore, rfl⟩ :=
      (conformInOrder_required_iff _ _ _ _ _ _ _ _ _).mp afterCode
    cases afterScore
    simp only at taken
    split at taken
    · rename_i empty
      cases taken
      cases List.isEmpty_iff.mp empty
      obtain ⟨id, rfl, rfl⟩ := (conform_text_iff _ _).mp takenId
      obtain ⟨file, rfl, rfl⟩ := (conform_text_iff _ _).mp takenFile
      obtain ⟨code, rfl, rfl⟩ := (conform_text_iff _ _).mp takenCode
      obtain ⟨score, narrowed, rfl⟩ :=
        (conform_single_iff number _ (readable number (by simp))).mp takenScore
      exact ⟨⟨id, file, code, score⟩, .list id file code number score narrowed, rfl⟩
    · cases taken
  · rintro ⟨chunk, recorded, rfl⟩
    cases recorded with
    | list id file code number score narrowed => cases narrowed <;> rfl

/-- A value is taken as a record just if it holds a chunk, and then as the record of the chunk. -/
theorem conform_iff (item record : Json) (readable : Readable item) :
    conform shape item = .ok record ↔ ∃ chunk, Records item chunk ∧ record = chunk.toJson := by
  have neither (rejected : conform shape item ≠ .ok record)
      (holdsNone : ∀ chunk, ¬ Records item chunk) :
      conform shape item = .ok record ↔ ∃ chunk, Records item chunk ∧ record = chunk.toJson :=
    ⟨fun taken => absurd taken rejected, fun ⟨chunk, held, _⟩ => absurd held (holdsNone chunk)⟩
  cases readable with
  | object members ordered each =>
      rw [conform_object_iff members ordered each]
      constructor
      · rintro ⟨chunk, fields, same⟩
        exact ⟨chunk, .object members chunk fields, same⟩
      · rintro ⟨chunk, held, same⟩
        cases held with
        | object members chunk fields => exact ⟨chunk, fields, same⟩
  | array items each => exact conform_list_iff items each record
  | number value numeric =>
      cases numeric <;> exact neither (by rintro ⟨⟩) (by rintro chunk ⟨⟩)
  | _ => exact neither (by rintro ⟨⟩) (by rintro chunk ⟨⟩)

end RankedChunk

namespace Ranking

open RankedChunk Json

theorem ofJson_array_iff (items : List Json) (readable : ∀ item ∈ items, Readable item)
    (chunks : List RankedChunk) :
    ofJson (.array items) = .ok chunks ↔ List.Forall₂ Records items chunks := by
  have taken (records : List Json) : items.mapM (conform RankedChunk.shape) = .ok records ↔
      ∃ chunks, List.Forall₂ Records items chunks ∧ records = chunks.map RankedChunk.toJson := by
    induction items generalizing records with
    | nil =>
        constructor
        · intro same
          cases same
          exact ⟨[], .nil, rfl⟩
        · rintro ⟨chunks, each, rfl⟩
          cases each
          rfl
    | cons item items ih =>
        obtain ⟨here, later⟩ := List.forall_mem_cons.mp readable
        rw [List.mapM_cons]
        simp only [bind_eq_ok, conform_iff item _ here, ih later]
        constructor
        · rintro ⟨_, ⟨chunk, held, rfl⟩, _, ⟨chunks, each, rfl⟩, same⟩
          cases same
          exact ⟨chunk :: chunks, .cons held each, rfl⟩
        · rintro ⟨chunks, each, rfl⟩
          cases each with
          | cons held each => exact ⟨_, ⟨_, held, rfl⟩, _, ⟨_, each, rfl⟩, rfl⟩
  have back (chunks : List RankedChunk) :
      (chunks.map RankedChunk.toJson).filterMap RankedChunk.ofJson? = chunks := by
    rw [List.filterMap_map]
    exact List.filterMap_some
  constructor
  · intro accepted
    cases given : items.mapM (conform RankedChunk.shape) with
    | error cause =>
        simp only [ofJson, given] at accepted
        cases accepted
    | ok records =>
        obtain ⟨held, each, rfl⟩ := (taken records).mp given
        simp only [ofJson, given, back] at accepted
        cases accepted
        exact each
  · intro each
    have given := (taken _).mpr ⟨chunks, each, rfl⟩
    simp only [ofJson, given, back]

theorem ofJson_array_cases (items : List Json) :
    (∃ chunks, ofJson (.array items) = .ok chunks) ∨
      ∃ reason, ofJson (.array items) = .error (.invalidOutput reason) := by
  cases given : items.mapM (conform RankedChunk.shape) with
  | error cause =>
      simp only [ofJson, given]
      exact .inr ⟨_, rfl⟩
  | ok records =>
      simp only [ofJson, given]
      exact .inl ⟨_, rfl⟩

theorem parse_of_ok {output : String} {value : Json}
    (read : Json.parse (Text.trimString output) = .ok value) : parse output = ofJson value := by
  simp only [parse, read]

theorem parse_of_error {output : String} {fault : Fault}
    (failed : Json.parse (Text.trimString output) = .error fault) :
    ∃ reason, parse output = .error (.invalidOutput reason) := by
  simp only [parse, failed]
  exact ⟨_, rfl⟩

theorem parse_array_iff {output : String} {items : List Json}
    (read : Json.parse (Text.trimString output) = .ok (.array items)) (chunks : List RankedChunk) :
    parse output = .ok chunks ↔ List.Forall₂ Records items chunks := by
  rw [parse_of_ok read]
  refine ofJson_array_iff items ?_ chunks
  cases parse_readable read with
  | array items each => exact each
  | number value numeric => cases numeric

theorem ofJson_not_array {value : Json} (other : ∀ items, value ≠ .array items) :
    ofJson value = .error (.notAnArray (kindOf value)) := by
  cases value with
  | array items => exact absurd rfl (other items)
  | _ => rfl

theorem parse_eq_ok_iff (output : String) (chunks : List RankedChunk) :
    parse output = .ok chunks ↔ ∃ items,
      Json.parse (Text.trimString output) = .ok (.array items) ∧
        List.Forall₂ Records items chunks := by
  constructor
  · intro accepted
    cases read : Json.parse (Text.trimString output) with
    | error fault =>
        obtain ⟨reason, failed⟩ := parse_of_error read
        cases failed.symm.trans accepted
    | ok value =>
        by_cases list : ∃ items, value = .array items
        · obtain ⟨items, rfl⟩ := list
          exact ⟨items, rfl, (parse_array_iff read chunks).mp accepted⟩
        · have rejected := ofJson_not_array fun items same => list ⟨items, same⟩
          cases rejected.symm.trans ((parse_of_ok read).symm.trans accepted)
  · rintro ⟨items, read, each⟩
    exact (parse_array_iff read chunks).mpr each

def spellings : List (List String) :=
  [["id", "ID"], ["file", "File"], ["code", "Code"], ["score", "Score"]]

/-- Two elements that are the same, or objects that have the same values for the fields, each under
any one of its names. -/
inductive Alike : Json → Json → Prop
  | same (item : Json) : Alike item item
  | objects (members others : List (String × Json))
      (agree : ∀ names ∈ spellings, ∀ value,
        Under names (fun name => member? name (.object members)) value ↔
          Under names (fun name => member? name (.object others)) value) :
      Alike (.object members) (.object others)

theorem inObject_congr {lookup other : String → Option Json}
    (agree : ∀ names ∈ spellings, ∀ value, Under names lookup value ↔ Under names other value)
    (chunk : RankedChunk) : InObject lookup chunk ↔ InObject other chunk := by
  have forward {first second : String → Option Json}
      (agree : ∀ names ∈ spellings, ∀ value, Under names first value ↔ Under names second value)
      (fields : InObject first chunk) : InObject second chunk := by
    obtain ⟨id, file, code, number, score, narrowed⟩ := fields
    exact ⟨(agree _ (by simp [spellings]) _).mp id, (agree _ (by simp [spellings]) _).mp file,
      (agree _ (by simp [spellings]) _).mp code, number, (agree _ (by simp [spellings]) _).mp score,
      narrowed⟩
  exact ⟨forward agree, forward fun names listed value => (agree names listed value).symm⟩

theorem records_object_iff (members : List (String × Json)) (chunk : RankedChunk) :
    Records (.object members) chunk ↔
      InObject (fun name => member? name (.object members)) chunk := by
  constructor
  · intro held
    cases held with
    | object members chunk fields => exact fields
  · exact .object members chunk

theorem Alike.records_iff {item other : Json} (alike : Alike item other) (chunk : RankedChunk) :
    Records item chunk ↔ Records other chunk := by
  cases alike with
  | same => exact Iff.rfl
  | objects members others agree =>
      rw [records_object_iff, records_object_iff]
      exact inObject_congr agree chunk

theorem forall₂_records_iff {items others : List Json} (alike : List.Forall₂ Alike items others)
    (chunks : List RankedChunk) :
    List.Forall₂ Records items chunks ↔ List.Forall₂ Records others chunks := by
  induction alike generalizing chunks with
  | nil => exact Iff.rfl
  | cons first later ih =>
      cases chunks with
      | nil => exact ⟨fun absent => (nomatch absent), fun absent => (nomatch absent)⟩
      | cons chunk chunks =>
          rw [List.forall₂_cons, List.forall₂_cons, first.records_iff chunk, ih chunks]

theorem exists_of_forall₂ {items : List Json} {chunks : List RankedChunk}
    (each : List.Forall₂ Records items chunks) : ∀ item ∈ items, ∃ chunk, Records item chunk := by
  induction each with
  | nil => exact List.forall_mem_nil _
  | cons held later ih => exact List.forall_mem_cons.mpr ⟨⟨_, held⟩, ih⟩

theorem renderItems_eq_append (layout : Layout) (items : List Json) :
    ∃ inside, renderItems layout items = inside ++ [']'] := by
  induction items with
  | nil => exact ⟨layout.newLine, rfl⟩
  | cons item items ih =>
      obtain ⟨inside, text⟩ := ih
      exact ⟨',' :: (layout.inner.newLine ++ item.render layout.inner ++ inside), by
        simp only [renderItems, text, List.cons_append, List.append_assoc]⟩

/-- A list stands between its brackets, so no blank stands at an end of its text. -/
theorem isBare_render_array (layout : Layout) (items : List Json) :
    Text.IsBare ((Json.array items).render layout) := by
  have between (inside : List Char) : Text.IsBare ('[' :: inside ++ [']']) := by
    constructor
    · rintro c ⟨⟩
      decide
    · rw [List.getLast?_append]
      rintro c ⟨⟩
      decide
  cases items with
  | nil => exact between []
  | cons item items =>
      obtain ⟨inside, text⟩ := renderItems_eq_append layout items
      have whole := between (layout.inner.newLine ++ item.render layout.inner ++ inside)
      simp only [render, text]
      simpa only [List.cons_append, List.append_assoc] using whole

/-- A member of an object as it is written: its name, its value, and what is read of the value. -/
abbrev Member := String × Json × Json

/-- The text of a list of objects with their members in any order, a name perhaps more than once. -/
def written (layout : Layout) (items : List (List Member)) : List Char :=
  (Json.array (items.map fun members =>
    .object (members.map fun member => (member.1, member.2.1)))).render layout

/-- The values of an object as it is read: those of the last members of each name. -/
def lastRead (members : List Member) (name : String) : Option Json :=
  lastCalled name (members.map fun member => (member.1, member.2.2))

theorem parse_written {layout : Layout} {items : List (List Member)} {before after : List Char}
    (reads : ∀ members ∈ items, ∀ member ∈ members,
      Rereads (depthLimit - 2) member.2.1 member.2.2)
    (blankBefore : ∀ c ∈ before, Text.isBlank c = true)
    (blankAfter : ∀ c ∈ after, Text.isBlank c = true) :
    Json.parse (Text.trimString (String.ofList (before ++ written layout items ++ after))) =
      .ok (.array (items.map fun members =>
        .object (gather (members.map fun member => (member.1, member.2.2))))) := by
  have bare := isBare_render_array layout (items.map fun members =>
    .object (members.map fun member => (member.1, member.2.1)))
  rw [written, Text.trimString, String.toList_ofList,
    Text.trim_between _ _ _ bare blankBefore blankAfter]
  have array := Rereads.array (depthLimit - 1) (items.map fun members =>
    ((Json.object (members.map fun member => (member.1, member.2.1)) : Json),
      Json.object (gather (members.map fun member => (member.1, member.2.2)))))
    fun item member => by
      obtain ⟨members, inside, rfl⟩ := List.mem_map.mp member
      exact .object (depthLimit - 2) members (reads members inside)
  rw [List.map_map, List.map_map] at array
  exact array.parse_render layout

/-- What is made of an output of a ranker. -/
structure Judgement (output : String) : Prop where
  /-- It is accepted if it is a list of elements that each hold a chunk, and as those chunks. -/
  accepted (chunks : List RankedChunk) : parse output = .ok chunks ↔
    ∃ items, Json.parse (Text.trimString output) = .ok (.array items) ∧
      List.Forall₂ Records items chunks
  /-- One bad element rejects it. -/
  bad (items : List Json) (read : Json.parse (Text.trimString output) = .ok (.array items))
    (item : Json) (member : item ∈ items) (holdsNone : ∀ chunk, ¬ Records item chunk) :
    ∃ reason, parse output = .error (.invalidOutput reason)
  other (value : Json) (read : Json.parse (Text.trimString output) = .ok value)
    (kind : ∀ items, value ≠ .array items) : parse output = .error (.notAnArray (kindOf value))
  unreadable (fault : Fault) (failed : Json.parse (Text.trimString output) = .error fault) :
    ∃ reason, parse output = .error (.invalidOutput reason)
  /-- Names and further members do not matter. -/
  alike (second : String) (items others : List Json)
    (read : Json.parse (Text.trimString output) = .ok (.array items))
    (readSecond : Json.parse (Text.trimString second) = .ok (.array others))
    (each : List.Forall₂ Alike items others) (chunks : List RankedChunk) :
    parse output = .ok chunks ↔ parse second = .ok chunks
  /-- Neither does the order of members; of several of one name the last counts. -/
  order (layout : Layout) (items : List (List Member)) (before after : List Char)
    (reads : ∀ members ∈ items, ∀ member ∈ members,
      Rereads (depthLimit - 2) member.2.1 member.2.2)
    (blankBefore : ∀ c ∈ before, Text.isBlank c = true)
    (blankAfter : ∀ c ∈ after, Text.isBlank c = true)
    (text : output = String.ofList (before ++ written layout items ++ after))
    (chunks : List RankedChunk) :
    parse output = .ok chunks ↔
      List.Forall₂ (fun members chunk => InObject (lastRead members) chunk) items chunks
  /-- A command that prints it and ends well ranks its first chunks. -/
  ranked {σ : Type} (config : RetrievalConfig) (limit : Nat) (launch : Launcher σ) (query : String)
    (count : Nat) (world next : σ) (result : CommandResult)
    (ran : launch ⟨config.command, renderArguments config.args query count, none, limit⟩ world =
      (.ok result, next))
    (well : result.exit.succeeded = true) (printed : result.text = output)
    (chunks : List RankedChunk) (good : parse output = .ok chunks) :
    config.rankWithin limit launch query count world =
      (.ok (chunks.take (min count chunks.length)), next)

theorem parse_judgement (output : String) : Judgement output where
  accepted := parse_eq_ok_iff output
  bad items read item member holdsNone := by
    rcases ofJson_array_cases items with ⟨chunks, accepted⟩ | ⟨reason, rejected⟩
    · have each := (parse_array_iff read chunks).mp ((parse_of_ok read).trans accepted)
      obtain ⟨chunk, held⟩ := exists_of_forall₂ each item member
      exact absurd held (holdsNone chunk)
    · exact ⟨reason, (parse_of_ok read).trans rejected⟩
  other value read kind := (parse_of_ok read).trans (ofJson_not_array kind)
  unreadable fault failed := parse_of_error failed
  alike second items others read readSecond each chunks := by
    rw [parse_array_iff read, parse_array_iff readSecond, forall₂_records_iff each]
  order layout items before after reads blankBefore blankAfter text chunks := by
    subst text
    rw [parse_array_iff (parse_written reads blankBefore blankAfter), List.forall₂_map_left_iff]
    simp only [records_object_iff, member?_gather]
    exact Iff.rfl
  ranked config limit launch query count world next result ran well printed chunks good := by
    subst printed
    rw [← List.take_eq_take_min]
    simp only [RetrievalConfig.rankWithin, bind, StateT.bind, ran, RetrievalConfig.judge, well,
      ↓reduceIte, good]
    rfl

example : parse
    " [\x7b\"File\":\"f\",\"id\":\"a\",\"ids\":null,\"Code\":\"c\",\"score\":1\x7d]\n" =
      .ok [⟨"a", "f", "c", .finite false 8388608 (-23)⟩] := by
  decide +kernel

end Ranking

end SourceIndex
