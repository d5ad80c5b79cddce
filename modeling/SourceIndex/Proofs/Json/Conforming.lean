import SourceIndex.Proofs.Json.Reading
import SourceIndex.Proofs.Json.Spelling

set_option autoImplicit false

namespace SourceIndex

mutual

/-- A shape whose values lie at most so many records and lists deep, and have no numbers that are
written in fewer digits than they hold. -/
def Shape.ExactWithin : Shape → Nat → Prop
  | .single, _ => False
  | .optional shape, depth => shape.ExactWithin depth
  | .sequence shape, depth => 0 < depth ∧ shape.ExactWithin (depth - 1)
  | .record _ fields, depth => 0 < depth ∧ fields.ExactWithin (depth - 1)
  | _, _ => True

def Fields.ExactWithin : Fields → Nat → Prop
  | .none, _ => True
  | .field _ _ _ shape later, depth => shape.ExactWithin depth ∧ later.ExactWithin depth

end

def Fields.names : Fields → List String
  | .none => []
  | .field name _ _ _ later => name :: later.names

namespace Json

mutual

/-- A value that holds what a shape asks for, as readers give it: its records have all of their
fields, in their order. -/
def Conforms : Shape → Json → Prop
  | .text, value => ∃ text, value = .string text
  | .path, value => ∃ text, value = .string text
  | .flag, value => ∃ flag, value = .bool flag
  | .word _, value => ∃ n < wordLimit, value = .natural n
  | .single, value => ∃ number, value = .single number
  | .optional shape, value => value = .null ∨ Conforms shape value
  | .sequence shape, value => ∃ items, value = .array items ∧ ∀ item ∈ items, Conforms shape item
  | .choice names, value => ∃ name ∈ names, value = .string name
  | .record _ fields, value => ∃ members, value = .object members ∧ ConformsAll fields members

def ConformsAll : Fields → List (String × Json) → Prop
  | .none, members => members = []
  | .field name _ _ shape later, members =>
    ∃ value rest, members = (name, value) :: rest ∧ Conforms shape value ∧ ConformsAll later rest

end

end Json

mutual

/-- A shape in whose records no field goes by the own name of a later one, and every fallback is
what its field asks for. -/
def Shape.Proper : Shape → Prop
  | .optional shape => shape.Proper
  | .sequence shape => shape.Proper
  | .record _ fields => fields.Proper
  | _ => True

def Fields.Proper : Fields → Prop
  | .none => True
  | .field name aliases fallback shape later =>
    shape.Proper ∧ (∀ value ∈ fallback, Json.Conforms shape value) ∧
      (∀ other ∈ later.names, (other == name || aliases.contains other) = false) ∧ later.Proper

end

namespace Json

theorem mem_names_of_fieldAt? {key own : String} {shape : Shape} :
    {fields : Fields} → fieldAt? fields key = some (own, shape) → own ∈ fields.names
  | .none, found => nomatch found
  | .field name aliases fallback head later, found => by
      rw [fieldAt?] at found
      split at found
      · cases found
        exact List.mem_cons_self
      · exact List.mem_cons_of_mem name (mem_names_of_fieldAt? found)

theorem fieldAt?_later {name : String} {aliases : List String} {fallback : Option Json}
    {head shape : Shape} {later : Fields} {own : String}
    (apart : ∀ other ∈ later.names, (other == name || aliases.contains other) = false)
    (found : fieldAt? later own = some (own, shape)) :
    fieldAt? (.field name aliases fallback head later) own = some (own, shape) := by
  rw [fieldAt?, apart own (mem_names_of_fieldAt? found), if_neg Bool.false_ne_true, found]

/-- A field that is found by one of its names is found by its own. -/
theorem fieldAt?_own {key own : String} {shape : Shape} :
    {fields : Fields} → fields.Proper → fieldAt? fields key = some (own, shape) →
      fieldAt? fields own = some (own, shape)
  | .none, _, found => nomatch found
  | .field name aliases fallback head later, proper, found => by
      obtain ⟨-, -, apart, rest⟩ := proper
      rw [fieldAt?] at found
      split at found
      · cases found
        rw [fieldAt?, beq_self_eq_true, Bool.true_or, if_pos rfl]
      · exact fieldAt?_later apart (fieldAt?_own rest found)

theorem nodup_names : {fields : Fields} → fields.Proper → fields.names.Nodup
  | .none, _ => List.nodup_nil
  | .field name aliases _ _ later, ⟨_, _, apart, rest⟩ => by
      refine List.nodup_cons.mpr ⟨fun member => ?_, nodup_names rest⟩
      have other := apart name member
      rw [beq_self_eq_true, Bool.true_or] at other
      cases other

theorem asWord_conforms {typeName : String} {value word : Json} (numeric : Numeric value)
    (given : asWord typeName value = .ok word) : Conforms (.word typeName) word := by
  cases numeric with
  | double value => cases given
  | integer value low high =>
      simp only [asWord] at given
      split at given
      · cases given
      · cases given
        have limit : wordLimit = significandBound := rfl
        exact ⟨value.toNat, by omega, by rw [natural, Int.toNat_of_nonneg (by omega)]⟩

theorem asSingle_conforms {value single : Json} (given : asSingle value = .ok single) :
    Conforms .single single := by
  cases value <;> cases given <;> exact ⟨_, rfl⟩

theorem not_wrongType {α : Type} {bound : Nat} {expected : String} {text : List Char} {result : α} :
    wrongType bound expected text ≠ .ok result := by
  intro read
  unfold wrongType at read
  split at read
  · cases read
  · split at read
    · cases read
    · split at read
      · cases read
      · split at read <;> cases read

theorem readFrom_of_opensWith {bound : Nat} {inner : Option (Scan Json)} {test : Char → Bool}
    {text rest : List Char} {value : Json} (opens : opensWith test text = true)
    (read : readWith bound inner text = .ok (value, rest)) :
    ∃ c, test c = true ∧ ReadFrom bound inner c value := by
  obtain ⟨c, later, first, from'⟩ := readWith_eq_ok read
  rw [opensWith, first] at opens
  exact ⟨c, opens, from'⟩

theorem readText_conforms {bound : Nat} {expected : String} {text rest : List Char} {value : Json}
    (read : readText bound expected text = .ok (value, rest)) :
    ∃ string, value = .string string := by
  unfold readText at read
  split at read
  · rename_i opens
    obtain ⟨c, quote, from'⟩ := readFrom_of_opensWith opens read
    cases beq_iff_eq.mp quote
    cases from' with
    | number c value opens numeric => exact absurd opens (by decide)
    | string value => exact ⟨value, rfl⟩
  · exact absurd read not_wrongType

theorem readFlag_conforms {bound : Nat} {text rest : List Char} {value : Json}
    (read : readFlag bound text = .ok (value, rest)) : ∃ flag, value = .bool flag := by
  unfold readFlag at read
  split at read
  · rename_i opens
    obtain ⟨c, letter, from'⟩ := readFrom_of_opensWith opens read
    rcases Bool.or_eq_true_iff.mp letter with yes | no
    · cases beq_iff_eq.mp yes
      cases from' with
      | yes => exact ⟨true, rfl⟩
      | number c value opens numeric => exact absurd opens (by decide)
    · cases beq_iff_eq.mp no
      cases from' with
      | no => exact ⟨false, rfl⟩
      | number c value opens numeric => exact absurd opens (by decide)
  · exact absurd read not_wrongType

theorem readNumber_eq_ok {bound : Nat} {expected : String} {check : Json → Except Cause Json}
    {text rest : List Char} {value : Json}
    (read : readNumber bound expected check text = .ok (value, rest)) :
    ∃ number, Numeric number ∧ check number = .ok value := by
  unfold readNumber at read
  split at read
  · rename_i opens
    obtain ⟨⟨number, later⟩, first, checked⟩ := bind_eq_ok.mp read
    obtain ⟨c, digit, from'⟩ := readFrom_of_opensWith opens first
    refine ⟨number, ?_, ?_⟩
    · cases from' with
      | number c value opens numeric => exact numeric
      | _ => exact absurd digit (by decide)
    · simp only at checked
      split at checked
      · rename_i passed
        cases checked
        exact passed
      · cases checked
  · exact absurd read not_wrongType

theorem readName_conforms {bound : Nat} {expected : String} {names : List String}
    {text rest : List Char} {value : Json}
    (read : readName bound expected names text = .ok (value, rest)) :
    Conforms (.choice names) value := by
  obtain ⟨⟨named, later⟩, first, known⟩ := bind_eq_ok.mp read
  obtain ⟨name, rfl⟩ := readText_conforms first
  simp only at known
  split at known
  · rename_i member
    cases known
    exact ⟨name, List.contains_iff_mem.mp member, rfl⟩
  · cases known

theorem readChoice_conforms {bound depth : Nat} {names : List String} {text rest : List Char}
    {value : Json} (read : readChoice bound depth names text = .ok (value, rest)) :
    Conforms (.choice names) value := by
  unfold readChoice at read
  split at read
  · cases read
  split at read
  · exact readName_conforms read
  split at read
  · split at read
    · cases read
    obtain ⟨⟨named, later⟩, first, read⟩ := bind_eq_ok.mp read
    obtain ⟨after, -, read⟩ := bind_eq_ok.mp read
    obtain ⟨behind, -, read⟩ := bind_eq_ok.mp read
    split at read
    · cases read
    · split at read
      · cases read
        exact readName_conforms first
      · cases read
  · cases read

/-- What was found conforms to the fields that it goes by. -/
def FoundConforms (fields : Fields) (found : List (String × Json)) : Prop :=
  ∀ entry ∈ found, ∀ shape, fieldAt? fields entry.1 = some (entry.1, shape) →
    Conforms shape entry.2

/-- The value of a field in a record that could be completed: it was found, or is the fallback, or
is null. -/
theorem complete_eq_ok {name : String} {aliases : List String} {fallback : Option Json}
    {shape : Shape} {later : Fields} {found members : List (String × Json)}
    (completed : complete (.field name aliases fallback shape later) found = .ok members) :
    ∃ value rest, members = (name, value) :: rest ∧ complete later found = .ok rest ∧
      ((name, value) ∈ found ∨ fallback = some value ∨
        (shape.isOptional = true ∧ value = .null)) := by
  simp only [complete] at completed
  split at completed
  · rename_i key value seen
    obtain ⟨_, given, completed⟩ := bind_eq_ok.mp completed
    cases given
    obtain ⟨rest, behind, same⟩ := bind_eq_ok.mp completed
    cases same
    have own := List.find?_some seen
    obtain rfl : key = name := beq_iff_eq.mp own
    exact ⟨value, rest, rfl, behind, .inl (List.mem_of_find?_eq_some seen)⟩
  split at completed
  · rename_i value
    obtain ⟨_, given, completed⟩ := bind_eq_ok.mp completed
    cases given
    obtain ⟨rest, behind, same⟩ := bind_eq_ok.mp completed
    cases same
    exact ⟨value, rest, rfl, behind, .inr (.inl rfl)⟩
  split at completed
  · rename_i optional
    obtain ⟨_, given, completed⟩ := bind_eq_ok.mp completed
    cases given
    obtain ⟨rest, behind, same⟩ := bind_eq_ok.mp completed
    cases same
    exact ⟨.null, rest, rfl, behind, .inr (.inr ⟨optional, rfl⟩)⟩
  · cases completed

theorem complete_conforms {found members : List (String × Json)} :
    {fields : Fields} → fields.Proper → FoundConforms fields found →
      complete fields found = .ok members → ConformsAll fields members
  | .none, _, _, completed => by
      cases completed
      rfl
  | .field name aliases fallback shape later, proper, conforming, completed => by
      obtain ⟨-, fits, apart, rest⟩ := proper
      obtain ⟨value, members, rfl, behind, origin⟩ := complete_eq_ok completed
      refine ⟨value, members, rfl, ?_, complete_conforms rest (fun entry member shape at' =>
        conforming entry member shape (fieldAt?_later apart at')) behind⟩
      rcases origin with member | given | ⟨optional, rfl⟩
      · refine conforming (name, value) member shape ?_
        rw [fieldAt?, beq_self_eq_true, Bool.true_or, if_pos rfl]
      · exact fits value given
      · cases shape <;> first | exact .inl rfl | cases optional

theorem fallbacks_conforms {expected : String} :
    {index : Nat} → {fields : Fields} → {members : List (String × Json)} → fields.Proper →
      fallbacks expected index fields = .ok members → ConformsAll fields members
  | _, .none, _, _, given => by
      cases given
      rfl
  | index, .field name aliases fallback shape later, _, proper, given => by
      obtain ⟨-, fits, -, rest⟩ := proper
      simp only [fallbacks] at given
      split at given
      · rename_i value
        obtain ⟨members, behind, same⟩ := bind_eq_ok.mp given
        cases same
        exact ⟨value, members, rfl, fits value rfl, fallbacks_conforms rest behind⟩
      · cases given

/-- Members that are read one by one conform to the fields that they go by. -/
theorem readMember_conforms {bound depth : Nat} {fields : Fields} (proper : fields.Proper)
    (each : ∀ key own shape, fieldAt? fields key = some (own, shape) →
      ∀ text value rest, readShape bound shape depth text = .ok (value, rest) →
        Conforms shape value)
    {before after : List (String × Json)} {name : String} {text rest : List Char}
    (conforming : FoundConforms fields before)
    (read : readMember bound (fun key => readField bound fields depth key) before name text =
      .ok (after, rest)) : FoundConforms fields after := by
  simp only [readMember, readField_eq] at read
  cases declared : fieldAt? fields name with
  | none =>
      rw [declared] at read
      obtain ⟨colon, -, read⟩ := bind_eq_ok.mp read
      obtain ⟨⟨⟨⟩, later⟩, -, same⟩ := bind_eq_ok.mp read
      cases same
      exact conforming
  | some field =>
      obtain ⟨own, shape⟩ := field
      simp only [declared, Option.map_some] at read
      split at read
      · cases read
      · obtain ⟨colon, -, read⟩ := bind_eq_ok.mp read
        obtain ⟨⟨value, later⟩, here, same⟩ := bind_eq_ok.mp read
        cases same
        refine List.forall_mem_cons.mpr ⟨fun other at' => ?_, conforming⟩
        obtain rfl : shape = other := by
          have found := fieldAt?_own proper declared
          rw [at'] at found
          cases found
          rfl
        exact each name own shape declared _ value later here

mutual

theorem readShape_conforms (bound : Nat) : (shape : Shape) → shape.Proper →
    ∀ (depth : Nat) (text : List Char) (value : Json) (rest : List Char),
      readShape bound shape depth text = .ok (value, rest) → Conforms shape value
  | .text, _, _, _, _, _, read => readText_conforms read
  | .path, _, _, _, _, _, read => readText_conforms read
  | .flag, _, _, _, _, _, read => readFlag_conforms read
  | .word typeName, _, _, _, _, _, read => by
      obtain ⟨number, numeric, checked⟩ := readNumber_eq_ok read
      exact asWord_conforms numeric checked
  | .single, _, _, _, _, _, read => by
      obtain ⟨number, -, checked⟩ := readNumber_eq_ok read
      exact asSingle_conforms checked
  | .optional shape, proper, depth, text, value, rest, read => by
      simp only [readShape] at read
      split at read
      · rename_i opens
        obtain ⟨c, letter, from'⟩ := readFrom_of_opensWith opens read
        cases beq_iff_eq.mp letter
        cases from' with
        | null => exact .inl rfl
        | number c value opens numeric => exact absurd opens (by decide)
      · exact .inr (readShape_conforms bound shape proper depth text value rest read)
  | .sequence shape, proper, depth, text, value, rest, read => by
      simp only [readShape, readSequence] at read
      split at read
      · cases read
      split at read
      · split at read
        · cases read
        obtain ⟨⟨items, later⟩, within, read⟩ := bind_eq_ok.mp read
        obtain ⟨behind, -, same⟩ := bind_eq_ok.mp read
        cases same
        exact ⟨items, rfl, forall_mem_readItems
          (fun text value rest => readShape_conforms bound shape proper (depth - 1) text value rest)
          (List.forall_mem_nil _) within⟩
      · exact absurd read not_wrongType
  | .choice names, _, _, _, _, _, read => readChoice_conforms read
  | .record name fields, proper, depth, text, value, rest, read => by
      simp only [readShape, readRecord] at read
      split at read
      · cases read
      split at read
      · split at read
        · cases read
        obtain ⟨⟨found, later⟩, within, read⟩ := bind_eq_ok.mp read
        have conforming := readMembers_keeps (P := FoundConforms fields)
          (fun before name text after rest => readMember_conforms proper
            (fun key own shape at' => readField_conforms bound fields proper (depth - 1) key own
              shape at'))
          (List.forall_mem_nil _) within
        simp only at read
        split at read
        · rename_i members completed
          obtain ⟨behind, -, same⟩ := bind_eq_ok.mp read
          cases same
          exact ⟨members, rfl, complete_conforms proper conforming completed⟩
        · cases read
      split at read
      · split at read
        · cases read
        obtain ⟨⟨members, later⟩, within, read⟩ := bind_eq_ok.mp read
        obtain ⟨behind, -, same⟩ := bind_eq_ok.mp read
        cases same
        exact ⟨members, rfl,
          readInOrder_conforms bound fields proper (depth - 1) 0 _ true _ members later within⟩
      · exact absurd read not_wrongType

theorem readField_conforms (bound : Nat) : (fields : Fields) → fields.Proper →
    ∀ (depth : Nat) (key own : String) (shape : Shape), fieldAt? fields key = some (own, shape) →
      ∀ (text : List Char) (value : Json) (rest : List Char),
        readShape bound shape depth text = .ok (value, rest) → Conforms shape value
  | .none, _, _, _, _, _, found => nomatch found
  | .field name aliases fallback head later, proper, depth, key, own, shape, found => by
      obtain ⟨first, -, -, others⟩ := proper
      rw [fieldAt?] at found
      split at found
      · cases found
        exact readShape_conforms bound head first depth
      · exact readField_conforms bound later others depth key own shape found

/-- A record that is given as a list holds what its fields ask for. -/
theorem readInOrder_conforms (bound : Nat) : (fields : Fields) → fields.Proper →
    ∀ (depth index : Nat) (expected : String) (first : Bool) (text : List Char)
      (members : List (String × Json)) (rest : List Char),
      readInOrder bound fields depth index expected first text = .ok (members, rest) →
        ConformsAll fields members
  | .none, _, _, _, _, _, _, _, _, read => by
      cases read
      rfl
  | .field name aliases fallback head later, proper, depth, index, expected, first, text, members,
      rest, read => by
      rw [readInOrder] at read
      obtain ⟨⟨more, behind⟩, -, read⟩ := bind_eq_ok.mp read
      cases more with
      | true =>
          obtain ⟨⟨value, between⟩, here, read⟩ := bind_eq_ok.mp read
          obtain ⟨⟨others, after⟩, within, same⟩ := bind_eq_ok.mp read
          cases same
          exact ⟨value, others, rfl,
            readShape_conforms bound head proper.1 depth _ value between here,
            readInOrder_conforms bound later proper.2.2.2 depth (index + 1) expected false between
              others _ within⟩
      | false =>
          simp only [Bool.false_eq_true, ↓reduceIte] at read
          split at read
          · rename_i given
            cases read
            exact fallbacks_conforms proper given
          · cases read

end

theorem parseAs_conforms {shape : Shape} (proper : shape.Proper) {text : String} {value : Json}
    (read : parseAs shape text = .ok value) : Conforms shape value := by
  obtain ⟨⟨value, rest⟩, first, read⟩ := bind_eq_ok.mp read
  obtain ⟨⟨⟩, -, same⟩ := bind_eq_ok.mp read
  cases same
  exact readShape_conforms _ shape proper depthLimit _ value rest first

theorem names_of_conformsAll {members : List (String × Json)} :
    {fields : Fields} → ConformsAll fields members → members.map (·.1) = fields.names
  | .none, conforming => by
      cases conforming
      rfl
  | .field _ _ _ _ _, ⟨value, rest, same, _, later⟩ => by
      rw [same, List.map_cons, names_of_conformsAll later, Fields.names]

/-- A record that has all of its fields is not completed further. -/
theorem complete_of_conformsAll {found members : List (String × Json)} :
    {fields : Fields} → ConformsAll fields members →
      (∀ member ∈ members, (found.find? fun (key, _) => key == member.1) = some member) →
        complete fields found = .ok members
  | .none, conforming, _ => by
      cases conforming
      rfl
  | .field name _ _ _ _, ⟨value, rest, same, _, later⟩, seen => by
      subst same
      obtain ⟨here, behind⟩ := List.forall_mem_cons.mp seen
      simp only [complete, here, complete_of_conformsAll later behind]
      rfl

/-- The members of a record that conform, each with the shape of its field. -/
structure Spellings (depth : Nat) (fields : Fields) (members : List (String × Json))
    (spellings : List Spelling) : Prop where
  written : spellings.map Spelling.member = members
  read : spellings.map Spelling.field = members
  names : spellings.map (·.name) = fields.names
  declared : ∀ spelling ∈ spellings,
    fieldAt? fields spelling.name = some (spelling.name, spelling.shape)
  each : ∀ spelling ∈ spellings, Spells depth spelling.shape spelling.written spelling.read

mutual

theorem spells_of_conforms : (shape : Shape) → shape.Proper → ∀ depth : Nat,
    shape.ExactWithin depth → ∀ value : Json, Conforms shape value → Spells depth shape value value
  | .text, _, depth, _, _, ⟨text, same⟩ => same ▸ .text depth text
  | .path, _, depth, _, _, ⟨text, same⟩ => same ▸ .path depth text
  | .flag, _, depth, _, _, ⟨flag, same⟩ => same ▸ .flag depth flag
  | .word typeName, _, depth, _, _, ⟨n, fits, same⟩ => same ▸ .word depth typeName n fits
  | .single, _, _, exact', _, _ => exact'.elim
  | .optional shape, proper, depth, exact', value, conforming => by
      cases null : value.isNull with
      | true =>
          cases value <;> first | exact .absent depth shape | cases null
      | false =>
          rcases conforming with rfl | conforming
          · cases null
          · exact .present depth shape value value null
              (spells_of_conforms shape proper depth exact' value conforming)
  | .sequence shape, proper, depth, ⟨deep, exact'⟩, value, ⟨items, same, each⟩ => by
      obtain ⟨depth, rfl⟩ := Nat.exists_eq_succ_of_ne_zero (Nat.ne_of_gt deep)
      have spelled := Spells.sequence depth shape (items.map fun item => (item, item))
        fun pair member => by
          obtain ⟨item, inside, rfl⟩ := List.mem_map.mp member
          exact spells_of_conforms shape proper depth exact' item (each item inside)
      simp only [List.map_map, Function.comp_def, List.map_id'] at spelled
      exact same ▸ spelled
  | .choice names, _, depth, _, _, ⟨name, member, same⟩ =>
      same ▸ .choice depth names name (List.contains_iff_mem.mpr member)
  | .record name fields, proper, depth, ⟨deep, exact'⟩, value, ⟨members, same, conforming⟩ => by
      obtain ⟨depth, rfl⟩ := Nat.exists_eq_succ_of_ne_zero (Nat.ne_of_gt deep)
      obtain ⟨spellings, spelled⟩ := spellings_of_conformsAll fields proper depth exact' members
        conforming
      have distinct := nodup_names proper
      have whole : complete fields members = .ok members := complete_of_conformsAll conforming
        fun member inside => (find?_eq_some_iff members member.1 member
          (names_of_conformsAll conforming ▸ distinct)).mpr ⟨inside, rfl⟩
      have record := Spells.record depth name fields spellings members spelled.declared
        (spelled.names ▸ distinct) spelled.each (spelled.read ▸ whole)
      rw [spelled.written] at record
      exact same ▸ record

theorem spellings_of_conformsAll : (fields : Fields) → fields.Proper → ∀ depth : Nat,
    fields.ExactWithin depth → ∀ members : List (String × Json), ConformsAll fields members →
      ∃ spellings, Spellings depth fields members spellings
  | .none, _, _, _, _, conforming => by
      cases conforming
      exact ⟨[], rfl, rfl, rfl, List.forall_mem_nil _, List.forall_mem_nil _⟩
  | .field name aliases fallback shape later, ⟨first, _, apart, others⟩, depth, ⟨exact', within⟩,
      members, ⟨value, rest, same, conforming, behind⟩ => by
      obtain ⟨spellings, written, read, names, declared, each⟩ :=
        spellings_of_conformsAll later others depth within rest behind
      refine ⟨⟨name, shape, value, value⟩ :: spellings, ?_, ?_, ?_, ?_, ?_⟩
      · rw [List.map_cons, written, same]
        rfl
      · rw [List.map_cons, read, same]
        rfl
      · rw [List.map_cons, names, Fields.names]
      · refine List.forall_mem_cons.mpr ⟨?_, fun spelling member =>
          fieldAt?_later apart (declared spelling member)⟩
        rw [fieldAt?, beq_self_eq_true, Bool.true_or, if_pos rfl]
      · exact List.forall_mem_cons.mpr
          ⟨spells_of_conforms shape first depth exact' value conforming, each⟩

end

/-- A value that conforms to a shape is read as the shape from its own text, in every layout. -/
theorem parseAs_render_of_conforms {shape : Shape} (proper : shape.Proper)
    (exact' : shape.ExactWithin depthLimit) {value : Json} (conforming : Conforms shape value)
    (layout : Layout) : parseAs shape (String.ofList (value.render layout)) = .ok value :=
  (spells_of_conforms shape proper depthLimit exact' value conforming).parseAs_render layout

end Json

end SourceIndex
