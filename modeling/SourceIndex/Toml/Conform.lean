import SourceIndex.Json.Shape
import SourceIndex.Toml.Reader

set_option autoImplicit false

namespace SourceIndex.Toml

/-- What is wrong with an item, and the place if it has one. -/
structure Misfit where
  cause : Json.Cause
  span : Option Span
deriving Inhabited

/-- Gives a fault without a place the place of the item it lies in. -/
def locate {α : Type} (span : Option Span) (read : Except Misfit α) : Except Misfit α :=
  match read with
  | .ok value => .ok value
  | .error misfit => .error { misfit with span := misfit.span.or span }

def misfit {α : Type} (cause : Json.Cause) : Except Misfit α := .error ⟨cause, none⟩

def lift {α : Type} (read : Except Json.Cause α) : Except Misfit α :=
  match read with
  | .ok value => .ok value
  | .error cause => misfit cause

def wrongType {α : Type} (expected : String) (item : Item) : Except Misfit α :=
  misfit (.invalidType item.found expected)

/-- The entries of a table that are fields; the others are left out. -/
def conformEntries (reader : String → Option (String × (Item → Except Misfit Json))) :
    Entries → List (String × Json) → Except Misfit (List (String × Json))
  | [], found => .ok found
  | (key, item) :: entries, found =>
    match reader key.name with
    | none => conformEntries reader entries found
    | some (own, conform) =>
      if found.any fun (name, _) => name == own then misfit (.duplicateField own)
      else do
        let value ← locate (item.span?.or (some key.span)) (conform item)
        conformEntries reader entries ((own, value) :: found)

mutual

def conform : Shape → Item → Except Misfit Json
  | .text, item => locate item.span? <| match item with
    | .scalar (.string text) _ => .ok (.string text)
    | item => wrongType "a string" item
  | .path, item => locate item.span? <| match item with
    | .scalar (.string text) _ => .ok (.string text)
    | item => wrongType "path string" item
  | .flag, item => locate item.span? <| match item with
    | .scalar (.boolean flag) _ => .ok (.bool flag)
    | item => wrongType "a boolean" item
  | .word typeName, item => locate item.span? <| match item with
    | .scalar (.integer value) _ => lift (Json.asWord typeName (.integer value))
    | item => wrongType typeName item
  | .single, item => locate item.span? <| match item with
    | .scalar (.integer value) _ => lift (Json.asSingle (.integer value))
    | item => wrongType "f32" item
  | .optional shape, item => locate item.span? (conform shape item)
  | .sequence shape, item => locate item.span? <| match item with
    | .list items _ => do return .array (← items.mapM fun item => conform shape item)
    | .tables items => do return .array (← items.mapM fun item => conform shape item)
    | item => wrongType "a sequence" item
  | .choice names, item => locate item.span? <| match item with
    | .scalar (.string name) _ => lift (Json.conformChoice names (.string name))
    | item => wrongType "string or map" item
  | .record name fields, item => locate item.span? <| match item with
    | .table _ entries => do
      let found ← conformEntries (fun key => conformField fields key) entries []
      return .object (← lift (Json.complete fields found))
    | .scalar .dateTime _ => do return .object (← lift (Json.complete fields []))
    | .list items _ => do
      return .object (← conformInOrder fields 0 (Json.recordOf name fields) items)
    | .tables items => do
      return .object (← conformInOrder fields 0 (Json.recordOf name fields) items)
    | item => wrongType (Shape.recordName name) item

/-- The field that goes by a name, and how its item is read. -/
def conformField : Fields → String → Option (String × (Item → Except Misfit Json))
  | .none, _ => none
  | .field name aliases _ shape later, key =>
    if key == name || aliases.contains key then some (name, fun item => conform shape item)
    else conformField later key

/-- The fields from the one numbered `index` on, as items of a list. Items past the last field are
left out. -/
def conformInOrder : Fields → Nat → String → List Item → Except Misfit (List (String × Json))
  | .none, _, _, _ => .ok []
  | .field name aliases fallback shape later, index, expected, items =>
    match items with
    | [] => lift (Json.fallbacks expected index (.field name aliases fallback shape later))
    | item :: items => do
      let value ← conform shape item
      return (name, value) :: (← conformInOrder later (index + 1) expected items)

end

/-- The value of a text that is read as a shape, or the message that says what is wrong. -/
def parseAs (shape : Shape) (text : String) : Except String Json :=
  let characters := text.toList
  match read characters with
  | .error fault => .error (fault.report characters)
  | .ok table =>
    match conform shape table.item with
    | .ok value => .ok value
    | .error ⟨cause, some span⟩ => .error (report characters span cause.message)
    | .error ⟨cause, none⟩ => .error (cause.message ++ "\n")

end SourceIndex.Toml
