import SourceIndex.Json.Scan

set_option autoImplicit false

namespace SourceIndex.Json

/-- Whether an item follows or the list ends. Before every item but the first stands a comma. -/
def nextItem (first : Bool) (text : List Char) : Except Fault (Bool × List Char) :=
  match skipSpaces text with
  | [] => .error (Fault.at .endInList [])
  | c :: rest =>
    if c == ']' then .ok (false, c :: rest)
    else if first then .ok (true, c :: rest)
    else if c == ',' then
      match skipSpaces rest with
      | [] => .error (Fault.at .endInValue [])
      | d :: later =>
        if d == ']' then .error (Fault.past .trailingComma (d :: later)) else .ok (true, d :: later)
    else .error (Fault.past .expectedListCommaOrEnd (c :: rest))

def closeList (text : List Char) : Except Fault (List Char) :=
  match skipSpaces text with
  | [] => .error (Fault.at .endInList [])
  | c :: rest =>
    if c == ']' then .ok rest
    else if c == ',' then
      match skipSpaces rest with
      | d :: later =>
        if d == ']' then .error (Fault.past .trailingComma (d :: later))
        else .error (Fault.past .trailingCharacters (d :: later))
      | [] => .error (Fault.at .trailingCharacters [])
    else .error (Fault.past .trailingCharacters (c :: rest))

/-- Whether a member follows or the object ends. A member begins with a quote. -/
def nextMember (first : Bool) (text : List Char) : Except Fault (Bool × List Char) :=
  match skipSpaces text with
  | [] => .error (Fault.at .endInObject [])
  | c :: rest =>
    if c == '\x7d' then .ok (false, c :: rest)
    else if first then
      if c == '"' then .ok (true, c :: rest) else .error (Fault.past .keyNotString (c :: rest))
    else if c == ',' then
      match skipSpaces rest with
      | [] => .error (Fault.at .endInValue [])
      | d :: later =>
        if d == '"' then .ok (true, d :: later)
        else if d == '\x7d' then .error (Fault.past .trailingComma (d :: later))
        else .error (Fault.past .keyNotString (d :: later))
    else .error (Fault.past .expectedObjectCommaOrEnd (c :: rest))

def closeObject (text : List Char) : Except Fault (List Char) :=
  match skipSpaces text with
  | [] => .error (Fault.at .endInObject [])
  | c :: rest =>
    if c == '\x7d' then .ok rest
    else if c == ',' then .error (Fault.past .trailingComma (c :: rest))
    else .error (Fault.past .trailingCharacters (c :: rest))

def scanColon (text : List Char) : Except Fault (List Char) :=
  match skipSpaces text with
  | [] => .error (Fault.at .endInObject [])
  | c :: rest => if c == ':' then .ok rest else .error (Fault.past .expectedColon (c :: rest))

/-- The items of a list up to its bracket, put behind `found`, which is backwards. -/
def readItems {α : Type} (item : Scan α) : Nat → List α → Scan (List α)
  | 0, _, text => .error (Fault.at .endInList text)
  | fuel + 1, found, text => do
    let (more, text) ← nextItem found.isEmpty text
    if more then
      let (value, text) ← item text
      readItems item fuel (value :: found) text
    else return (found.reverse, text)

/-- The members of an object up to its brace, each given to `member` with its name and what was
made of the members before it. -/
def readMembers {σ : Type} (bound : Nat) (member : σ → String → Scan σ) :
    Nat → Bool → σ → Scan σ
  | 0, _, _, text => .error (Fault.at .endInObject text)
  | fuel + 1, first, state, text => do
    let (more, text) ← nextMember first text
    if more then
      let (name, text) ← scanString bound (text.drop 1)
      let (state, text) ← member state name text
      readMembers bound member fuel false state text
    else return (state, text)

/-- Puts a member in its place by name; it takes the place of one with the same name. -/
def insertMember (name : String) (value : Json) :
    List (String × Json) → List (String × Json)
  | [] => [(name, value)]
  | (other, held) :: members =>
    if name == other then (name, value) :: members
    else if name < other then (name, value) :: (other, held) :: members
    else (other, held) :: insertMember name value members

/-- A value, with `inner` for the values in it; without `inner` there may be none. -/
def readWith (bound : Nat) (inner : Option (Scan Json)) (text : List Char) :
    Except Fault (Json × List Char) :=
  match skipSpaces text with
  | [] => .error (Fault.at .endInValue [])
  | c :: rest =>
    if c == 'n' then do
      let ((), rest) ← scanWord "ull".toList rest
      return (.null, rest)
    else if c == 't' then do
      let ((), rest) ← scanWord "rue".toList rest
      return (.bool true, rest)
    else if c == 'f' then do
      let ((), rest) ← scanWord "alse".toList rest
      return (.bool false, rest)
    else if c == '-' then scanNumber false rest
    else if isDigit c then scanNumber true (c :: rest)
    else if c == '"' then do
      let (value, rest) ← scanString bound rest
      return (.string value, rest)
    else if c == '[' then
      match inner with
      | none => .error (Fault.past .tooDeep (c :: rest))
      | some inner => do
        let (items, rest) ← readItems inner bound [] rest
        let rest ← closeList rest
        return (.array items, rest)
    else if c == '\x7b' then
      match inner with
      | none => .error (Fault.past .tooDeep (c :: rest))
      | some inner => do
        let member (members : List (String × Json)) (name : String) : Scan _ := fun text => do
          let text ← scanColon text
          let (value, text) ← inner text
          return (insertMember name value members, text)
        let (members, rest) ← readMembers bound member bound true [] rest
        let rest ← closeObject rest
        return (.object members, rest)
    else .error (Fault.past .expectedValue (c :: rest))

/-- The number of lists and objects that may lie in one another. -/
def depthLimit : Nat := 127

/-- A value with at most `depth` lists and objects in one another. -/
def readValue (bound : Nat) : Nat → Scan Json
  | 0 => readWith bound none
  | depth + 1 => readWith bound (some (readValue bound depth))

def closeText (text : List Char) : Except Fault Unit :=
  match skipSpaces text with
  | [] => .ok ()
  | rest => .error (Fault.past .trailingCharacters rest)

def parse (text : String) : Except Fault Json := do
  let characters := text.toList
  let (value, rest) ← readValue (characters.length + 1) depthLimit characters
  closeText rest
  return value

/-- What a value that is passed over lies in. -/
inductive Frame where
  | list
  | object
deriving DecidableEq, Repr

/-- The name of a member that is passed over, and its colon. -/
def passName (bound : Nat) (text : List Char) : Except Fault (List Char) :=
  match skipSpaces text with
  | [] => .error (Fault.at .endInObject [])
  | c :: rest =>
    if c == '"' then do
      let ((), rest) ← passString bound rest
      scanColon rest
    else .error (Fault.past .keyNotString (c :: rest))

def passScalar (bound : Nat) (c : Char) (rest : List Char) : Except Fault (List Char) :=
  let word (letters : String) : Except Fault (List Char) := do
    return (← scanWord letters.toList rest).2
  if c == 'n' then word "ull"
  else if c == 't' then word "rue"
  else if c == 'f' then word "alse"
  else if c == '-' then do return (← passNumber rest).2
  else if isDigit c then do return (← passNumber (c :: rest)).2
  else if c == '"' then do return (← passString bound rest).2
  else .error (Fault.past .expectedValue (c :: rest))

/-- Ends the frames that end here. After the last one the value is passed over; else another value
follows in the frame that stays open. `separated` says that a value or frame has just ended. -/
def passEnds : Bool → List Frame → List Char →
    Except Fault (Option (List Frame) × List Char)
  | _, [], text => .ok (none, text)
  | separated, frame :: frames, text =>
    match skipSpaces text with
    | [] => .error (Fault.at (if frame == .list then .endInList else .endInObject) [])
    | c :: rest =>
      if c == ',' && separated then .ok (some (frame :: frames), rest)
      else if (c == ']' && frame == .list) || (c == '\x7d' && frame == .object) then
        passEnds true frames rest
      else if separated then
        .error (Fault.past
          (if frame == .list then .expectedListCommaOrEnd else .expectedObjectCommaOrEnd)
          (c :: rest))
      else .ok (some (frame :: frames), c :: rest)

def passFrom (bound : Nat) : Nat → List Frame → List Char → Except Fault (List Char)
  | 0, _, text => .error (Fault.at .endInValue text)
  | fuel + 1, frames, text =>
    match skipSpaces text with
    | [] => .error (Fault.at .endInValue [])
    | c :: rest => do
      let (ended, text) ←
        if c == '[' then passEnds false (.list :: frames) rest
        else if c == '\x7b' then passEnds false (.object :: frames) rest
        else do passEnds true frames (← passScalar bound c rest)
      match ended with
      | none => return text
      | some (.list :: frames) => passFrom bound fuel (.list :: frames) text
      | some (.object :: frames) => passFrom bound fuel (.object :: frames) (← passName bound text)
      | some [] => return text

def passValue (bound : Nat) : Scan Unit := fun text => do
  return ((), ← passFrom bound bound [] text)

end SourceIndex.Json
