import SourceIndex.Toml.Document
import SourceIndex.Toml.Scan

set_option autoImplicit false

namespace SourceIndex.Toml

/-- Whether a character may stand in a key without quotes. -/
def isBare (c : Char) : Bool := c.isAlphanum || c == '-' || c == '_'

/-- A key as messages write it: with quotes unless it needs none. -/
def keyText (name : List Char) : String :=
  if !name.isEmpty && name.all isBare then String.ofList name
  else String.ofList (Json.quoted name)

def scanKeyName (text : List Char) : Except Fault (List Char × List Char) :=
  match text with
  | '"' :: _ => scanBasic text
  | '\'' :: _ => scanLiteral text
  | _ => scanSome isBare text

/-- One key with the blanks around it. Places are told by what is left of a text of `size`
bytes. -/
def scanKey (size : Nat) (text : List Char) : Except Fault (Key × List Char) := do
  let start := skipBlanks text
  let (name, rest) ← scanKeyName start
  let span : Span := ⟨size - Text.byteCount start, size - Text.byteCount rest⟩
  return ({ name := String.ofList name, raw := keyText name, span }, skipBlanks rest)

/-- Keys after the first, with dots between them, put before `found` backwards. -/
def scanKeysFrom (size : Nat) : Nat → List Key → Scan (List Key)
  | 0, found, text => .ok (found.reverse, text)
  | fuel + 1, found, text =>
    match text with
    | '.' :: rest =>
      match scanKey size rest with
      | .ok (key, rest) => scanKeysFrom size fuel (key :: found) rest
      | .error fault => if fault.final then .error fault else .ok (found.reverse, text)
    | _ => .ok (found.reverse, text)

/-- The number of tables and lists that may lie in one another, and of keys with dots between. -/
def depthLimit : Nat := 80

/-- A dotted key: the keys before the last one, and the last one. -/
def scanKeys (size : Nat) (text : List Char) :
    Except Fault ((List Key × Key) × List Char) := do
  let (first, rest) ← within "key" (scanKey size text)
  let (keys, rest) ← within "key" (scanKeysFrom size rest.length [first] rest)
  if depthLimit < keys.length then refuse .tooDeep text
  else return ((keys.dropLast, keys.getLast?.getD first), rest)

def scanKeyEquals (size : Nat) (text : List Char) :
    Except Fault ((List Key × Key) × List Char) := do
  let (keys, rest) ← scanKeys size text
  let (_, rest) ← commit (expecting [tick ".", tick "="] (scanChar (· == '=') rest))
  return (keys, skipBlanks rest)

/-- Items with commas between them, put before `found` backwards. Where no item follows a comma,
the list ends before it. -/
def scanSeparated {α : Type} (item : Scan α) : Nat → List α → Scan (List α)
  | 0, found, text => .ok (found.reverse, text)
  | fuel + 1, found, text =>
    match text with
    | ',' :: rest =>
      match item rest with
      | .ok (value, rest) => scanSeparated item fuel (value :: found) rest
      | .error fault => if fault.final then .error fault else .ok (found.reverse, text)
    | _ => .ok (found.reverse, text)

def scanList {α : Type} (item : Scan α) (text : List Char) :
    Except Fault (List α × List Char) := do
  match ← optional item text with
  | (some first, rest) => scanSeparated item (rest.length + 1) [first] rest
  | (none, rest) => return ([], rest)

/-- The items of a list, the comma that may follow them, and the gaps before the bracket. -/
def scanListBody (item : Scan Item) (text : List Char) :
    Except Fault (List Item × List Char) :=
  match text with
  | ']' :: _ => .ok ([], text)
  | _ => do
    let inGaps : Scan Item := fun text => do
      let ((), rest) ← gaps text
      let (value, rest) ← item rest
      let ((), rest) ← gaps rest
      return (value, rest)
    let (items, rest) ← scanList inGaps text
    let rest := match items, rest with
      | _ :: _, ',' :: later => later
      | _, _ => rest
    let ((), rest) ← gaps rest
    return (items, rest)

def scanListValue (item : Scan Item) (text : List Char) :
    Except Fault (List Item × List Char) := do
  let (items, rest) ← commit (scanListBody item text)
  let (_, rest) ←
    commit (expecting [tick "]"] (within "array" (scanChar (· == ']') rest)))
  return (items, rest)

def scanPair (size : Nat) (item : Scan Item) (text : List Char) :
    Except Fault (((List Key × Key) × Item) × List Char) := do
  let (keys, rest) ← scanKeyEquals size text
  let (value, rest) ← commit (item rest)
  return ((keys, value), skipBlanks rest)

def tableOf (pairs : List ((List Key × Key) × Item)) : Except Cause Table :=
  pairs.foldlM
    (fun table ((path, key), value) => table.define true none path key value)
    { form := { inBraces := true } }

def scanBraces (size : Nat) (item : Scan Item) (text : List Char) :
    Except Fault (Table × List Char) := do
  let (pairs, rest) ← commit (scanList (scanPair size item) text)
  let table ← match tableOf pairs with
    | .ok table => pure table
    | .error cause => commit (refuse cause text)
  let (_, rest) ← commit <|
    expecting [tick "\x7d"] (within "inline table" (scanChar (· == '\x7d') (skipBlanks rest)))
  return (table, rest)

/-- The words that a value may be, by their first letter. -/
def wordValue (c : Char) (text : List Char) : Except Fault (Scalar × List Char) :=
  let named {α : Type} (word : String) (value : α) : Except Fault (α × List Char) := do
    let ((), rest) ← scanWord word text
    return (value, rest)
  expecting [tick "\"", tick "'"] <| within "string" <|
    if c == 't' then commit (named "true" (.boolean true))
    else if c == 'f' then commit (named "false" (.boolean false))
    else if c == 'i' then named "inf" (.float (decimalText (.infinite false)))
    else if c == 'n' then named "nan" (.float "NaN")
    else failAt text

/-- A value, with `inner` for the values in it; without `inner` there may be none. -/
def scanItemWith (size : Nat) (inner : Option (Scan Item)) : Scan Item
  | [] => failAt []
  | c :: rest =>
    let text := c :: rest
    let spanTo (left : List Char) : Span := ⟨size - Text.byteCount text, size - Text.byteCount left⟩
    let scalar (read : Except Fault (Scalar × List Char)) : Except Fault (Item × List Char) := do
      let (value, left) ← read
      return (.scalar value (spanTo left), left)
    if c == '"' || c == '\'' then scalar do
      let (value, left) ← scanString text
      return (.string (String.ofList value), left)
    else if c == '[' || c == '\x7b' then
      match inner with
      | none => commit (refuse .tooDeep text)
      | some inner =>
        if c == '[' then do
          let (items, left) ← scanListValue inner rest
          return (.list items (spanTo left), left)
        else do
          let (table, left) ← scanBraces size inner rest
          return (.table { table.form with span := some (spanTo left) } table.entries, left)
    else if isSign c || isDigit c then scalar (scanNumeric text)
    else if c == '_' then scalar <| expecting ["leading digit"] do
      let (value, left) ← scanInteger text
      return (.integer value, left)
    else if c == '.' then scalar <| expecting ["leading digit"] do
      let (value, left) ← scanFloat text
      return (.float value, left)
    else scalar (wordValue c text)

/-- A value with at most `depth` lists and tables in one another. -/
def scanItem (size : Nat) : Nat → Scan Item
  | 0 => scanItemWith size none
  | depth + 1 => scanItemWith size (some (scanItem size depth))

def lineEndExpected : List String := ["newline", tick "#"]

def readPair (size : Nat) (document : Document) (text : List Char) :
    Except Fault (Document × List Char) := do
  let ((path, key), rest) ← scanKeyEquals size text
  let (value, rest) ← commit (scanItem size depthLimit rest)
  let ((), rest) ← commit (expecting lineEndExpected (scanLineRest rest))
  match document.define path key value with
  | .ok document => return (document, rest)
  | .error cause => refuse cause text

def readHeader (size : Nat) (document : Document) (text : List Char) :
    Except Fault (Document × List Char) := within "table header" do
  let repeated := text.take 2 == ['[', '[']
  let bracket := if repeated then "]]" else "]"
  let (((path, key), rest)) ← commit (scanKeys size (text.drop (if repeated then 2 else 1)))
  let ((), rest) ← commit (expecting [tick ".", tick bracket] (scanWord bracket rest))
  let span : Span := ⟨size - Text.byteCount text, size - Text.byteCount rest⟩
  let ((), rest) ← commit (expecting lineEndExpected (scanLineRest rest))
  let opened := if repeated then document.openRepeated path key span
    else document.openTable path key span
  match opened with
  | .ok document => return (document, rest)
  | .error cause => refuse cause text

/-- The lines of a document. The bound on the steps is the length of the text. -/
def readLines (size : Nat) : Nat → Document → List Char → Except Fault Document
  | 0, document, _ => .ok document
  | fuel + 1, document, text =>
    match skipBlanks text with
    | [] => .ok document
    | '#' :: rest => do
      let ((), rest) ← scanLineEnd (rest.dropWhile isPlain)
      readLines size fuel document rest
    | '\n' :: rest => readLines size fuel document rest
    | '\r' :: '\n' :: rest => readLines size fuel document rest
    | '\r' :: rest => failAt ('\r' :: rest)
    | '[' :: rest => do
      let (document, rest) ← readHeader size document ('[' :: rest)
      readLines size fuel document rest
    | rest => do
      let (document, rest) ← readPair size document rest
      readLines size fuel document rest

/-- The root table of a text. A byte order mark may lead it. -/
def read (text : List Char) : Except Fault Table := do
  let size := Text.byteCount text
  let start := match text with
    | '\uFEFF' :: rest => rest
    | _ => text
  let document ← readLines size (text.length + 1) {} start
  match document.close with
  | .ok table => return table
  | .error cause => refuse cause []

end SourceIndex.Toml
