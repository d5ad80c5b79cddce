import SourceIndex.Json.Reader

/-
Shapes of records, as data, and JSON text or values read as a shape. What is read has the members
of each record in the order of its fields, with fallbacks filled in. The steps of every reader are
bounded by `bound`, a number above the length of the whole text.
-/

set_option autoImplicit false

namespace SourceIndex

mutual

inductive Shape where
  | text
  /-- A text that is a path. -/
  | path
  | flag
  /-- A natural below `wordBound`, by the name of its type. -/
  | word (typeName : String)
  /-- A number of 32 bits. -/
  | single
  /-- A value that may be null or missing. -/
  | optional (shape : Shape)
  | sequence (shape : Shape)
  /-- One of some names. -/
  | choice (names : List String)
  | record (name : String) (fields : Fields)
deriving Inhabited

/-- The fields of a record. A field has one name or more, the first of them its own, and may have
a fallback for when it is missing. -/
inductive Fields where
  | none
  | field (name : String) (aliases : List String) (fallback : Option Json) (shape : Shape)
    (later : Fields)
deriving Inhabited

end

namespace Fields

def count : Fields → Nat
  | none => 0
  | field _ _ _ _ later => later.count + 1

end Fields

namespace Shape

def isOptional : Shape → Bool
  | optional _ => true
  | _ => false

def recordName (name : String) : String := "struct " ++ name

end Shape

namespace Json

def wordLimit : Nat := Nat.pow 2 64

def asWord (typeName : String) : Json → Except Cause Json
  | .integer value =>
    if value < 0 then .error (.invalidValue (.integer value) typeName) else .ok (.integer value)
  | value => .error (.invalidType (.ofValue value) typeName)

def asSingle : Json → Except Cause Json
  | .integer value => .ok (.single (FloatFormat.single.ofInt value))
  | .double value => .ok (.single (FloatFormat.single.convert value))
  | .single value => .ok (.single value)
  | value => .error (.invalidType (.ofValue value) "f32")

/-- The members of a record in the order of its fields. A field that was not found has its
fallback, or is null if it is optional. -/
def complete : Fields → List (String × Json) → Except Cause (List (String × Json))
  | .none, _ => .ok []
  | .field name _ fallback shape later, found => do
    let value ← match found.find? fun (key, _) => key == name with
      | some (_, value) => pure value
      | none => match fallback with
        | some value => pure value
        | none => if shape.isOptional then pure .null else throw (.missingField name)
    return (name, value) :: (← complete later found)

/-- A record that is given as a list may lack fields at its end only if they have fallbacks. -/
def fallbacks (expected : String) : Nat → Fields → Except Cause (List (String × Json))
  | _, .none => .ok []
  | index, .field name _ fallback _ later =>
    match fallback with
    | some value => do return (name, value) :: (← fallbacks expected (index + 1) later)
    | none => .error (.invalidLength index expected)

/-- How messages name a record with its number of fields. -/
def recordOf (name : String) (fields : Fields) : String :=
  Shape.recordName name ++ " with " ++ toString fields.count ++ " elements"

/-- A fault found in a value at the place where the text goes on. -/
def fail {α : Type} (cause : Cause) (text : List Char) : Except Fault α :=
  .error (Fault.at cause text)

/-- The fault for a value of the wrong type. A scalar is read first, and may itself be wrong; a
list or an object is not entered. -/
def wrongType {α : Type} (bound : Nat) (expected : String) (text : List Char) : Except Fault α :=
  match skipSpaces text with
  | [] => .error (Fault.at .endInValue [])
  | c :: rest =>
    if c == '[' then fail (.invalidType .sequence expected) (c :: rest)
    else if c == '\x7b' then fail (.invalidType .map expected) (c :: rest)
    else match readWith bound none (c :: rest) with
      | .ok (value, rest) => fail (.invalidType (.ofValue value) expected) rest
      | .error fault => .error fault

/-- A value that passes `check`, which tells what is wrong with any other. -/
def readChecked (bound : Nat) (check : Json → Except Cause Json) (text : List Char) :
    Except Fault (Json × List Char) := do
  let (value, rest) ← readWith bound none text
  match check value with
  | .ok value => return (value, rest)
  | .error cause => fail cause rest

/-- Whether the value ahead begins with a character that passes the test. -/
def opensWith (test : Char → Bool) (text : List Char) : Bool :=
  (skipSpaces text).head?.any test

def readText (bound : Nat) (expected : String) (text : List Char) :
    Except Fault (Json × List Char) :=
  if opensWith (· == '"') text then readWith bound none text else wrongType bound expected text

def readFlag (bound : Nat) (text : List Char) : Except Fault (Json × List Char) :=
  if opensWith (fun c => c == 't' || c == 'f') text then readWith bound none text
  else wrongType bound "a boolean" text

def readNumber (bound : Nat) (expected : String) (check : Json → Except Cause Json)
    (text : List Char) : Except Fault (Json × List Char) :=
  if opensWith (fun c => c == '-' || isDigit c) text then readChecked bound check text
  else wrongType bound expected text

def readName (bound : Nat) (expected : String) (names : List String) (text : List Char) :
    Except Fault (Json × List Char) := do
  let (value, rest) ← readText bound expected text
  match value with
  | .string name =>
    if names.contains name then return (value, rest) else fail (.unknownVariant name names) rest
  | _ => return (value, rest)

def readUnit (bound : Nat) (text : List Char) : Except Fault (List Char) :=
  if opensWith (· == 'n') text then do
    return (← readWith bound none text).2
  else wrongType bound "unit" text

/-- A choice is its name, or an object whose only member has the name and null. -/
def readChoice (bound depth : Nat) (names : List String) (text : List Char) :
    Except Fault (Json × List Char) :=
  match skipSpaces text with
  | [] => .error (Fault.at .endInValue [])
  | c :: rest =>
    if c == '"' then readName bound "variant identifier" names (c :: rest)
    else if c == '\x7b' then
      if depth == 0 then .error (Fault.past .tooDeep (c :: rest))
      else do
        let (value, rest) ← readName bound "variant identifier" names rest
        let rest ← readUnit bound (← scanColon rest)
        match skipSpaces rest with
        | [] => .error (Fault.at .endInObject [])
        | d :: later =>
          if d == '\x7d' then return (value, later)
          else .error (Fault.at .expectedValue (d :: later))
    else .error (Fault.past .expectedValue (c :: rest))

/-- A reader for the field called `name`, with the field's own name. -/
abbrev FieldReader := String → Option (String × Scan Json)

/-- One member of a record: the value of a field, found once only, or a value passed over. -/
def readMember (bound : Nat) (reader : FieldReader) (found : List (String × Json)) (name : String) :
    Scan (List (String × Json)) := fun text =>
  match reader name with
  | none => do
    let ((), text) ← passValue bound (← scanColon text)
    return (found, text)
  | some (own, read) =>
    if found.any fun (key, _) => key == own then
      let text := skipSpaces text
      fail (.duplicateField own) (if text.head? == some '\x7d' then text.drop 1 else text)
    else do
      let (value, text) ← read (← scanColon text)
      return ((own, value) :: found, text)

def readObject (bound : Nat) (fields : Fields) (reader : FieldReader) (text : List Char) :
    Except Fault (Json × List Char) := do
  let (found, text) ← readMembers bound (readMember bound reader) bound true [] text
  match complete fields found with
  | .ok members => return (.object members, ← closeObject text)
  | .error cause => fail cause (text.drop 1)

/-- Reads the members of a record as it is given in a list. -/
abbrev ListReader := Bool → Scan (List (String × Json))

/-- A record as an object, or as a list of the values of its fields. -/
def readRecord (bound depth : Nat) (name : String) (fields : Fields) (reader : FieldReader)
    (inOrder : ListReader) (text : List Char) : Except Fault (Json × List Char) :=
  match skipSpaces text with
  | [] => .error (Fault.at .endInValue [])
  | c :: rest =>
    if c == '\x7b' then
      if depth == 0 then .error (Fault.past .tooDeep (c :: rest))
      else readObject bound fields reader rest
    else if c == '[' then
      if depth == 0 then .error (Fault.past .tooDeep (c :: rest))
      else do
        let (members, rest) ← inOrder true rest
        return (.object members, ← closeList rest)
    else wrongType bound (Shape.recordName name) (c :: rest)

def readSequence (bound depth : Nat) (item : Scan Json) (text : List Char) :
    Except Fault (Json × List Char) :=
  match skipSpaces text with
  | [] => .error (Fault.at .endInValue [])
  | c :: rest =>
    if c == '[' then
      if depth == 0 then .error (Fault.past .tooDeep (c :: rest))
      else do
        let (items, rest) ← readItems item bound [] rest
        return (.array items, ← closeList rest)
    else wrongType bound "a sequence" (c :: rest)

mutual

/-- Text read as a shape, with at most `depth` lists and objects in one another. -/
def readShape (bound : Nat) : Shape → Nat → Scan Json
  | .text, _ => readText bound "a string"
  | .path, _ => readText bound "path string"
  | .flag, _ => readFlag bound
  | .word typeName, _ => readNumber bound typeName (asWord typeName)
  | .single, _ => readNumber bound "f32" asSingle
  | .optional shape, depth => fun text =>
    if opensWith (· == 'n') text then readWith bound none text else readShape bound shape depth text
  | .sequence shape, depth => readSequence bound depth (readShape bound shape (depth - 1))
  | .choice names, depth => readChoice bound depth names
  | .record name fields, depth =>
    readRecord bound depth name fields (fun key => readField bound fields (depth - 1) key)
      (readInOrder bound fields (depth - 1) 0 (recordOf name fields))

def readField (bound : Nat) : Fields → Nat → String → Option (String × Scan Json)
  | .none, _, _ => none
  | .field name aliases _ shape later, depth, key =>
    if key == name || aliases.contains key then some (name, readShape bound shape depth)
    else readField bound later depth key

/-- The fields from the one numbered `index` on, as items of a list. -/
def readInOrder (bound : Nat) : Fields → Nat → Nat → String → Bool → Scan (List (String × Json))
  | .none, _, _, _, _ => fun text => .ok ([], text)
  | .field name aliases fallback shape later, depth, index, expected, first => fun text => do
    let (more, text) ← nextItem first text
    if more then
      let (value, text) ← readShape bound shape depth text
      let (members, text) ← readInOrder bound later depth (index + 1) expected false text
      return ((name, value) :: members, text)
    else
      match fallbacks expected index (.field name aliases fallback shape later) with
      | .ok members => return (members, text)
      | .error cause => fail cause (text.drop 1)

end

def parseAs (shape : Shape) (text : String) : Except Fault Json := do
  let characters := text.toList
  let (value, rest) ← readShape (characters.length + 1) shape depthLimit characters
  closeText rest
  return value

def conformText (expected : String) : Json → Except Cause Json
  | .string value => .ok (.string value)
  | value => .error (.invalidType (.ofValue value) expected)

def conformChoice (names : List String) : Json → Except Cause Json
  | .string name =>
    if names.contains name then .ok (.string name) else .error (.unknownVariant name names)
  | .object [(name, value)] =>
    if !names.contains name then .error (.unknownVariant name names)
    else if value.isNull then .ok (.string name)
    else .error (.invalidType (.ofValue value) "unit")
  | .object _ => .error (.invalidValue .map "map with a single key")
  | value => .error (.invalidType (.ofValue value) "string or map")

/-- The members of an object that are fields, each found once only. -/
def conformMembers (reader : String → Option (String × (Json → Except Cause Json))) :
    List (String × Json) → List (String × Json) → Except Cause (List (String × Json))
  | [], found => .ok found
  | (key, value) :: members, found =>
    match reader key with
    | none => conformMembers reader members found
    | some (own, conform) =>
      if found.any fun (name, _) => name == own then .error (.duplicateField own)
      else do conformMembers reader members ((own, ← conform value) :: found)

mutual

def conform : Shape → Json → Except Cause Json
  | .text, value => conformText "a string" value
  | .path, value => conformText "path string" value
  | .flag, value => match value with
    | .bool flag => .ok (.bool flag)
    | value => .error (.invalidType (.ofValue value) "a boolean")
  | .word typeName, value => asWord typeName value
  | .single, value => asSingle value
  | .optional shape, value => if value.isNull then .ok .null else conform shape value
  | .sequence shape, value => match value with
    | .array items => do return .array (← items.mapM fun item => conform shape item)
    | value => .error (.invalidType (.ofValue value) "a sequence")
  | .choice names, value => conformChoice names value
  | .record name fields, value => match value with
    | .object members => do
      let found ← conformMembers (fun key => conformField fields key) members []
      return .object (← complete fields found)
    | .array items => do
      let (members, left) ← conformInOrder fields 0 (recordOf name fields) items
      if left.isEmpty then return .object members
      else throw (.invalidLength items.length "fewer elements in array")
    | value => .error (.invalidType (.ofValue value) (Shape.recordName name))

/-- The field that goes by a name, and how its value is read. -/
def conformField : Fields → String → Option (String × (Json → Except Cause Json))
  | .none, _ => none
  | .field name aliases _ shape later, key =>
    if key == name || aliases.contains key then some (name, fun value => conform shape value)
    else conformField later key

/-- The fields from the one numbered `index` on, as items of a list, and the items left over. -/
def conformInOrder : Fields → Nat → String → List Json →
    Except Cause (List (String × Json) × List Json)
  | .none, _, _, items => .ok ([], items)
  | .field name aliases fallback shape later, index, expected, items =>
    match items with
    | [] => do
      return (← fallbacks expected index (.field name aliases fallback shape later), [])
    | item :: items => do
      let value ← conform shape item
      let (members, left) ← conformInOrder later (index + 1) expected items
      return ((name, value) :: members, left)

end

end Json

end SourceIndex
