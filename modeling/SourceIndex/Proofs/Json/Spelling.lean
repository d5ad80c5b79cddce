import SourceIndex.Json.Shape
import SourceIndex.Proofs.Json.Layouts

set_option autoImplicit false

namespace SourceIndex.Json

/-- The field that goes by a name: its own name and its shape. -/
def fieldAt? : Fields → String → Option (String × Shape)
  | .none, _ => none
  | .field name aliases _ shape later, key =>
    if key == name || aliases.contains key then some (name, shape) else fieldAt? later key

/-- A member of a record with its shape, as it is written and as it is read. -/
structure Spelling where
  name : String
  shape : Shape
  written : Json
  read : Json

def Spelling.member (spelling : Spelling) : String × Json := (spelling.name, spelling.written)

def Spelling.field (spelling : Spelling) : String × Json := (spelling.name, spelling.read)

/-- A value that a shape spells out with at most so many records and lists in one another: the
value as it is written, and as it is read. -/
inductive Spells : Nat → Shape → Json → Json → Prop
  | text (depth : Nat) (value : String) : Spells depth .text (.string value) (.string value)
  | path (depth : Nat) (value : String) : Spells depth .path (.string value) (.string value)
  | flag (depth : Nat) (value : Bool) : Spells depth .flag (.bool value) (.bool value)
  | word (depth : Nat) (typeName : String) (value : Nat) (bound : value < wordLimit) :
      Spells depth (.word typeName) (.natural value) (.natural value)
  | absent (depth : Nat) (shape : Shape) : Spells depth (.optional shape) .null .null
  | present (depth : Nat) (shape : Shape) (written read : Json) (given : written.isNull = false)
      (spelled : Spells depth shape written read) : Spells depth (.optional shape) written read
  | choice (depth : Nat) (names : List String) (name : String) (known : names.contains name) :
      Spells depth (.choice names) (.string name) (.string name)
  | sequence (depth : Nat) (shape : Shape) (items : List (Json × Json))
      (each : ∀ item ∈ items, Spells depth shape item.1 item.2) :
      Spells (depth + 1) (.sequence shape) (.array (items.map (·.1))) (.array (items.map (·.2)))
  | record (depth : Nat) (name : String) (fields : Fields) (members : List Spelling)
      (read : List (String × Json))
      (declared : ∀ member ∈ members,
        fieldAt? fields member.name = some (member.name, member.shape))
      (distinct : (members.map (·.name)).Nodup)
      (each : ∀ member ∈ members, Spells depth member.shape member.written member.read)
      (completed : complete fields (members.map Spelling.field) = .ok read) :
      Spells (depth + 1) (.record name fields) (.object (members.map Spelling.member))
        (.object read)

theorem Spells.writesNull_eq {depth : Nat} {shape : Shape} {written read : Json}
    (spelled : Spells depth shape written read) : written.writesNull = written.isNull := by
  induction spelled with
  | present depth shape written read given spelled ih => exact ih
  | _ => rfl

theorem opensWith_cons (test : Char → Bool) (c : Char) (rest : List Char)
    (solid : isSpace c = false) : opensWith test (c :: rest) = test c := by
  simp only [opensWith, skipSpaces_cons c rest solid, List.head?_cons, Option.any_some]

theorem opensWith_skipSpaces (test : Char → Bool) (text : List Char) :
    opensWith test (skipSpaces text) = opensWith test text := by
  simp only [opensWith, skipSpaces_skipSpaces]

theorem wrongType_skipSpaces {α : Type} (bound : Nat) (expected : String) (text : List Char) :
    wrongType (α := α) bound expected (skipSpaces text) = wrongType bound expected text := by
  simp only [wrongType, skipSpaces_skipSpaces]

theorem readShape_skipSpaces (bound depth : Nat) (text : List Char) :
    (shape : Shape) →
      readShape bound shape depth (skipSpaces text) = readShape bound shape depth text
  | .text | .path => by
      simp only [readShape, readText, opensWith_skipSpaces, readWith_skipSpaces,
        wrongType_skipSpaces]
  | .flag => by
      simp only [readShape, readFlag, opensWith_skipSpaces, readWith_skipSpaces,
        wrongType_skipSpaces]
  | .word _ | .single => by
      simp only [readShape, readNumber, readChecked, opensWith_skipSpaces, readWith_skipSpaces,
        wrongType_skipSpaces]
  | .optional shape => by
      simp only [readShape, opensWith_skipSpaces, readWith_skipSpaces,
        readShape_skipSpaces bound depth text shape]
  | .sequence _ => by simp only [readShape, readSequence, skipSpaces_skipSpaces]
  | .choice _ => by simp only [readShape, readChoice, skipSpaces_skipSpaces]
  | .record _ _ => by simp only [readShape, readRecord, skipSpaces_skipSpaces]

theorem asWord_natural (typeName : String) (n : Nat) :
    asWord typeName (natural n) = .ok (natural n) := by
  have positive : ¬ (n : Int) < 0 := by omega
  simp only [natural, asWord, positive, ↓reduceIte]

theorem readText_quoted (bound : Nat) (expected text : String) (rest : List Char)
    (room : (quoted text.toList ++ rest).length < bound) :
    readText bound expected (quoted text.toList ++ rest) = .ok (.string text, rest) := by
  have opens : opensWith (· == '"') (quoted text.toList ++ rest) = true := rfl
  simp only [readText, opens, ↓reduceIte, readWith_quoted bound none text rest room]

theorem readField_eq (bound depth : Nat) (key : String) :
    (fields : Fields) → readField bound fields depth key =
      (fieldAt? fields key).map fun (name, shape) => (name, readShape bound shape depth)
  | .none => rfl
  | .field name aliases fallback shape later => by
      rw [readField, fieldAt?]
      split
      · rfl
      · exact readField_eq bound depth key later

section

variable (layout : Layout) (bound depth : Nat) (fields : Fields)

theorem readMember_spelling (spelling : Spelling)
    (declared : fieldAt? fields spelling.name = some (spelling.name, spelling.shape))
    (reads : ReadsBack layout.inner bound (readShape bound spelling.shape depth) spelling.written
      spelling.read)
    (found : List (String × Json)) (fresh : spelling.name ∉ found.map (·.1)) (rest : List Char)
    (room : (spelling.written.render layout.inner ++ rest).length < bound)
    (ends : endsNumber rest) :
    readMember bound (fun key => readField bound fields depth key) found spelling.name
        (layout.colon ++ (spelling.written.render layout.inner ++ rest)) =
      .ok (spelling.field :: found, rest) := by
  have unseen : ∀ entry ∈ found, ¬ (entry.1 == spelling.name) = true := by
    intro entry member same
    exact fresh (List.mem_map.mpr ⟨entry, member, beq_iff_eq.mp same⟩)
  have value : readShape bound spelling.shape depth
      (layout.gap ++ (spelling.written.render layout.inner ++ rest)) =
        .ok (spelling.read, rest) := by
    rw [← reads.passes, skipSpaces_gap, reads.passes, reads.back rest room ends]
  simp only [readMember, readField_eq, declared, Option.map_some]
  rw [if_neg (by rw [Bool.not_eq_true, List.any_eq_false]; exact unseen)]
  simp only [scanColon_colon, bind, Except.bind, value]
  rfl

/-- The members of a record are taken in one after the other, the last one first in the end. -/
theorem takesIn_spellings (members : List Spelling)
    (declared : ∀ member ∈ members,
      fieldAt? fields member.name = some (member.name, member.shape))
    (each : ∀ member ∈ members,
      ReadsBack layout.inner bound (readShape bound member.shape depth) member.written member.read)
    (found : List (String × Json))
    (distinct : (found.map (·.1) ++ members.map (·.name)).Nodup) :
    TakesIn layout bound (readMember bound fun key => readField bound fields depth key) found
      (members.map Spelling.member) ((members.map Spelling.field).reverse ++ found) := by
  induction members generalizing found with
  | nil => exact .none found
  | cons member members ih =>
      have reordered := List.perm_middle.nodup_iff.mp distinct
      have fresh : member.name ∉ found.map (·.1) := fun seen =>
        (List.nodup_cons.mp reordered).1 (List.mem_append_left _ seen)
      have later := ih (fun other inside => declared other (List.mem_cons_of_mem member inside))
        (fun other inside => each other (List.mem_cons_of_mem member inside))
        (member.field :: found) reordered
      rw [List.map_cons, List.map_cons, List.reverse_cons, List.append_assoc,
        List.singleton_append]
      exact .member found _ _ member.name member.written _
        (readMember_spelling layout bound depth fields member (declared member List.mem_cons_self)
          (each member List.mem_cons_self) found fresh) later

end

theorem find?_eq_some_iff (found : List (String × Json)) (name : String)
    (member : String × Json) (distinct : (found.map (·.1)).Nodup) :
    (found.find? fun (key, _) => key == name) = some member ↔ member ∈ found ∧ member.1 = name := by
  induction found with
  | nil => simp only [List.find?_nil, reduceCtorEq, List.not_mem_nil, false_and]
  | cons head found ih =>
      obtain ⟨fresh, later⟩ := List.nodup_cons.mp distinct
      rw [List.find?_cons, List.mem_cons]
      by_cases here : head.1 = name
      · have absent : ¬ (member ∈ found ∧ member.1 = name) := fun ⟨inside, same⟩ =>
          fresh (List.mem_map.mpr ⟨member, inside, same.trans here.symm⟩)
        simp only [here, beq_self_eq_true, Option.some.injEq]
        constructor
        · rintro rfl
          exact ⟨.inl rfl, here⟩
        · rintro ⟨rfl | inside, same⟩
          · rfl
          · exact absurd ⟨inside, same⟩ absent
      · have other : (head.1 == name) = false := beq_eq_false_iff_ne.mpr here
        simp only [other, ih later]
        constructor
        · exact fun ⟨inside, same⟩ => ⟨.inr inside, same⟩
        · rintro ⟨rfl | inside, same⟩
          · exact absurd same here
          · exact ⟨inside, same⟩

theorem completeWith (first second : List (String × Json)) (same : ∀ name : String,
    (first.find? fun (key, _) => key == name) = second.find? fun (key, _) => key == name) :
    (fields : Fields) → complete fields first = complete fields second
  | .none => rfl
  | .field name aliases fallback shape later => by
      simp only [complete, same name, completeWith first second same later]

/-- The order in which members were found does not matter if each name was found once. -/
theorem complete_reverse (fields : Fields) (found : List (String × Json))
    (distinct : (found.map (·.1)).Nodup) :
    complete fields found.reverse = complete fields found := by
  have reversed : (found.reverse.map (·.1)).Nodup := by
    rw [List.map_reverse]
    exact (List.reverse_perm _).nodup_iff.mpr distinct
  refine completeWith found.reverse found ?_ fields
  intro name
  apply Option.ext
  intro member
  rw [find?_eq_some_iff _ name member reversed, find?_eq_some_iff _ name member distinct,
    List.mem_reverse]

/-- What a shape spells out is read back as the value, in every layout and whatever follows. -/
theorem Spells.readsBack {depth : Nat} {shape : Shape} {written read : Json}
    (spelled : Spells depth shape written read) (layout : Layout) (bound : Nat) :
    ReadsBack layout bound (readShape bound shape depth) written read := by
  refine ⟨fun text => readShape_skipSpaces bound depth text shape, ?_⟩
  induction spelled generalizing layout with
  | text depth value =>
      intro rest room ends
      exact readText_quoted bound "a string" value rest room
  | path depth value =>
      intro rest room ends
      exact readText_quoted bound "path string" value rest room
  | flag depth value =>
      intro rest room ends
      cases value <;> rfl
  | word depth typeName value fits =>
      intro rest room ends
      obtain ⟨c, digits, first, digit⟩ := decimalDigits_eq_cons value
      have opens : opensWith (fun c => c == '-' || isDigit c) (decimalDigits value ++ rest) := by
        rw [first, List.cons_append, opensWith_cons _ c _ (isSpace_of_isDigit c digit),
          isDigit_of_isDigit c digit, Bool.or_true]
      rw [render_natural]
      simp only [readShape, readNumber, opens, ↓reduceIte, readChecked,
        readWith_natural bound none value fits rest ends, bind, Except.bind, asWord_natural]
      rfl
  | absent depth shape =>
      intro rest room ends
      rfl
  | present depth shape written read given spelled ih =>
      intro rest room ends
      obtain ⟨c, later, text, first⟩ := written.render_eq_cons layout
      have opens : opensWith (· == 'n') (written.render layout ++ rest) = false := by
        rw [text, List.cons_append, opensWith_cons _ c _ first.solid, first.word,
          spelled.writesNull_eq, given]
      simp only [readShape, opens, Bool.false_eq_true, ↓reduceIte]
      exact ih layout rest room ends
  | choice depth names name known =>
      intro rest room ends
      have value := readText_quoted bound "variant identifier" name rest room
      rw [quoted_append] at value
      simp only [render, quoted_append, readShape, readChoice, skipSpaces_cons '"' _ rfl,
        beq_self_eq_true, ↓reduceIte, readName, value, bind, Except.bind, known]
      rfl
  | sequence depth shape items each ih =>
      intro rest room ends
      obtain ⟨text, opens, inside⟩ := readItems_render layout bound (readShape bound shape depth)
        items (fun item member => ⟨fun text => readShape_skipSpaces bound depth text shape,
          ih item member layout.inner⟩) rest room
      rw [opens]
      have deeper : (depth + 1 == 0) = false := rfl
      simp only [readShape, readSequence, skipSpaces_cons '[' _ rfl, beq_self_eq_true, ↓reduceIte,
        deeper, Bool.false_eq_true, Nat.add_sub_cancel, inside, bind, Except.bind, closeList,
        skipSpaces_cons ']' _ rfl]
      rfl
  | record depth name fields members read declared distinct each completed ih =>
      intro rest room ends
      have takes := takesIn_spellings layout bound depth fields members declared
        (fun member inside => ⟨fun text => readShape_skipSpaces bound depth text member.shape,
          ih member inside layout.inner⟩) [] distinct
      obtain ⟨text, opens, inside⟩ := readMembers_render layout bound _ takes rest room
      rw [opens]
      have deeper : (depth + 1 == 0) = false := rfl
      have fieldsRead : (members.map Spelling.field).map (·.1) = members.map (·.name) := by
        rw [List.map_map]
        rfl
      have ordered := complete_reverse fields (members.map Spelling.field) (fieldsRead ▸ distinct)
      simp only [List.append_nil] at inside
      simp only [readShape, readRecord, skipSpaces_cons '\x7b' _ rfl, beq_self_eq_true, ↓reduceIte,
        deeper, Bool.false_eq_true, Nat.add_sub_cancel, readObject, inside, ordered, completed,
        bind, Except.bind, closeObject, skipSpaces_cons '\x7d' _ rfl]
      rfl

theorem Spells.parseAs_render {shape : Shape} {written read : Json}
    (spelled : Spells depthLimit shape written read) (layout : Layout) :
    parseAs shape (String.ofList (written.render layout)) = .ok read := by
  have text := (spelled.readsBack layout ((written.render layout).length + 1)).back []
    (by rw [List.append_nil]; exact Nat.lt_succ_self _) rfl
  rw [List.append_nil] at text
  simp only [parseAs, String.toList_ofList, text, bind, Except.bind, closeText]
  rfl

theorem Spells.parseAs_compact {shape : Shape} {written read : Json}
    (spelled : Spells depthLimit shape written read) :
    parseAs shape written.compact = .ok read :=
  spelled.parseAs_render none

end SourceIndex.Json
