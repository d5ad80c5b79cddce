import SourceIndex.Json.Value
import SourceIndex.Text.Lossy
import SourceIndex.Text.Quoted

set_option autoImplicit false

namespace SourceIndex.Json

/-- What was found where something else was expected. -/
inductive Found where
  | null
  | bool (value : Bool)
  | integer (value : Int)
  | floating (value : Floating)
  /-- A floating-point number by its text. -/
  | decimal (text : String)
  | string (value : String)
  | sequence
  | map
deriving DecidableEq, Repr, Inhabited

inductive Cause where
  | endInList
  | endInObject
  | endInString
  | endInValue
  | expectedColon
  | expectedListCommaOrEnd
  | expectedObjectCommaOrEnd
  | expectedIdent
  | expectedValue
  | invalidEscape
  | invalidNumber
  | numberOutOfRange
  | controlCharacter
  | keyNotString
  | loneSurrogate
  | trailingComma
  | trailingCharacters
  | endOfEscape
  | tooDeep
  | invalidType (found : Found) (expected : String)
  | invalidValue (found : Found) (expected : String)
  | invalidLength (length : Nat) (expected : String)
  | unknownVariant (name : String) (known : List String)
  | missingField (name : String)
  | duplicateField (name : String)
deriving DecidableEq, Repr, Inhabited

def Found.ofValue : Json → Found
  | .null => .null
  | .bool value => .bool value
  | .integer value => .integer value
  | .double value => .floating value
  | .single value => .floating value
  | .string value => .string value
  | .array _ => .sequence
  | .object _ => .map

def inTicks (text : String) : String := "`" ++ text ++ "`"

def Found.message : Found → String
  | null => "null"
  | bool value => "boolean " ++ inTicks (toString value)
  | integer value => "integer " ++ inTicks (toString value)
  | floating value =>
    "floating point " ++ inTicks (String.ofList (renderFloating .double .double value))
  | decimal text => "floating point " ++ inTicks text
  | string value => "string " ++ Text.inQuotes value
  | sequence => "sequence"
  | map => "map"

def choiceOf : List String → String
  | [name] => inTicks name
  | [first, second] => inTicks first ++ " or " ++ inTicks second
  | names => "one of " ++ ", ".intercalate (names.map inTicks)

def Cause.message : Cause → String
  | endInList => "EOF while parsing a list"
  | endInObject => "EOF while parsing an object"
  | endInString => "EOF while parsing a string"
  | endInValue => "EOF while parsing a value"
  | expectedColon => "expected `:`"
  | expectedListCommaOrEnd => "expected `,` or `]`"
  | expectedObjectCommaOrEnd => "expected `,` or `\x7d`"
  | expectedIdent => "expected ident"
  | expectedValue => "expected value"
  | invalidEscape => "invalid escape"
  | invalidNumber => "invalid number"
  | numberOutOfRange => "number out of range"
  | controlCharacter =>
    "control character (\\u0000-\\u001F) found while parsing a string"
  | keyNotString => "key must be a string"
  | loneSurrogate => "lone leading surrogate in hex escape"
  | trailingComma => "trailing comma"
  | trailingCharacters => "trailing characters"
  | endOfEscape => "unexpected end of hex escape"
  | tooDeep => "recursion limit exceeded"
  | invalidType found expected => "invalid type: " ++ found.message ++ ", expected " ++ expected
  | invalidValue found expected => "invalid value: " ++ found.message ++ ", expected " ++ expected
  | invalidLength length expected =>
    "invalid length " ++ toString length ++ ", expected " ++ expected
  | unknownVariant name known =>
    "unknown variant " ++ inTicks name ++ ", expected " ++ choiceOf known
  | missingField name => "missing field " ++ inTicks name
  | duplicateField name => "duplicate field " ++ inTicks name

/-- A cause with its place, as the number of bytes that follow the place. -/
structure Fault where
  cause : Cause
  left : Nat
deriving DecidableEq, Repr, Inhabited

/-- The cause at the place where `rest` begins. -/
def Fault.at (cause : Cause) (rest : List Char) : Fault := ⟨cause, Text.byteCount rest⟩

/-- The cause at the byte after the place where `rest` begins, or at the end of the text. -/
def Fault.past (cause : Cause) (rest : List Char) : Fault := ⟨cause, Text.byteCount rest - 1⟩

/-- The line and the column of a byte: lines count from one, and the column is the number of
bytes since the line began. -/
def placeOf (bytes : List UInt8) : Nat × Nat :=
  bytes.foldl
    (fun (place : Nat × Nat) (byte : UInt8) =>
      if byte == 10 then (place.1 + 1, 0) else (place.1, place.2 + 1))
    (1, 0)

def Fault.message (fault : Fault) (text : String) : String :=
  let bytes := Text.encode text
  let (line, column) := placeOf (bytes.take (bytes.length - fault.left))
  fault.cause.message ++ " at line " ++ toString line ++ " column " ++ toString column

end SourceIndex.Json
