import SourceIndex.Shell.Script

set_option autoImplicit false

namespace SourceIndex.Shell

/-- Why a script cannot be read, and how much of it was left then. -/
structure ScriptFault where
  reason : String
  left : List Char
deriving DecidableEq, Repr, Inhabited

abbrev ReadScript (α : Type) := List Char → Except ScriptFault (α × List Char)

namespace Reader

def unterminated : String := "Unterminated quoted string"

def unexpected (what : String) : String := "\"" ++ what ++ "\" unexpected"

def unexpectedEnd : String := "end of file unexpected"

def fail {α : Type} (reason : String) (text : List Char) : Except ScriptFault α :=
  .error ⟨reason, text⟩

def isSpace (c : Char) : Bool := c == ' ' || c == '\t'

def isDelimiter (c : Char) : Bool :=
  isSpace c || c == '\n' || c == ';' || c == '&' || c == '|' || c == '<' || c == '>' ||
    c == '(' || c == ')'

def isNameStart (c : Char) : Bool := c.isAlpha || c == '_'

def isNamePart (c : Char) : Bool := c.isAlphanum || c == '_'

def skipBlanks : List Char → List Char
  | '\\' :: '\n' :: rest => skipBlanks rest
  | '#' :: rest => rest.dropWhile (· != '\n')
  | c :: rest => if isSpace c then skipBlanks rest else c :: rest
  | [] => []

def skipLines : Nat → List Char → List Char
  | 0, text => text
  | fuel + 1, text =>
    match skipBlanks text with
    | '\n' :: rest => skipLines fuel rest
    | rest => rest

def takeSingle : List Char → List Char → Except ScriptFault (List Char × List Char)
  | _, [] => .error ⟨unterminated, []⟩
  | taken, '\'' :: rest => .ok (taken.reverse, rest)
  | taken, c :: rest => takeSingle (c :: taken) rest

/-- Takes the text up to the end of what `opening` has begun, with nested ones and with quotes
in it. `quote` is the quote that is open. -/
def takeNested (opening closing : Char) : Nat → Option Char → List Char →
    ReadScript (List Char)
  | _, _, _, [] =>
    .error ⟨unexpectedEnd ++ " (expecting \"" ++ String.singleton closing ++ "\")", []⟩
  | depth, quote, taken, c :: rest =>
    match quote, c, rest with
    | some '\'', '\'', rest => takeNested opening closing depth none (c :: taken) rest
    | some '\'', _, rest => takeNested opening closing depth quote (c :: taken) rest
    | _, '\\', next :: rest => takeNested opening closing depth quote (next :: c :: taken) rest
    | some _, '"', rest => takeNested opening closing depth none (c :: taken) rest
    | some _, _, rest => takeNested opening closing depth quote (c :: taken) rest
    | none, _, rest =>
      if c == '\'' || c == '"' then takeNested opening closing depth (some c) (c :: taken) rest
      else if c == closing then
        match depth with
        | 0 => .ok (taken.reverse, rest)
        | depth + 1 => takeNested opening closing depth none (c :: taken) rest
      else if c == opening then takeNested opening closing (depth + 1) none (c :: taken) rest
      else takeNested opening closing depth none (c :: taken) rest

def takeGrave : List Char → ReadScript (List Char)
  | _, [] => .error ⟨unterminated, []⟩
  | taken, '\x60' :: rest => .ok (taken.reverse, rest)
  | taken, '\\' :: c :: rest =>
    if c == '\x60' || c == '\\' || c == '$' then takeGrave (c :: taken) rest
    else takeGrave (c :: '\\' :: taken) rest
  | taken, c :: rest => takeGrave (c :: taken) rest

def isSpecial (c : Char) : Bool := c.isDigit || ['@', '*', '#', '?', '$', '!', '-'].contains c

def bracedPart (text : List Char) (quoted : Bool) : Part :=
  let split (text : List Char) : String × List Char :=
    match text with
    | c :: rest =>
      if isNameStart c then
        (String.ofList (c :: rest.takeWhile isNamePart), rest.dropWhile isNamePart)
      else if c.isDigit then
        (String.ofList (c :: rest.takeWhile Char.isDigit), rest.dropWhile Char.isDigit)
      else (String.singleton c, rest)
    | [] => ("", [])
  match text with
  | '#' :: c :: rest => .parameter (split (c :: rest)).1 (some .length) quoted
  | _ =>
    let (name, rest) := split text
    let substitute := match rest with
      | ':' :: '+' :: word => some (Substitute.replacement true (String.ofList word))
      | ':' :: _ :: word => some (Substitute.fallback true (String.ofList word))
      | '+' :: word => some (Substitute.replacement false (String.ofList word))
      | _ :: word => some (Substitute.fallback false (String.ofList word))
      | [] => none
    .parameter name substitute quoted

def readDollar (quoted : Bool) (text : List Char) : Except ScriptFault (Part × List Char) :=
  match text with
  | '(' :: '(' :: rest => do
    let (inner, rest) ← takeNested '(' ')' 0 none [] rest
    match rest with
    | ')' :: rest => return (.arithmetic (String.ofList inner) quoted, rest)
    | _ => fail "Missing '))'" rest
  | '(' :: rest => do
    let (inner, rest) ← takeNested '(' ')' 0 none [] rest
    return (.output (String.ofList inner) quoted, rest)
  | '\x7b' :: rest => do
    let (inner, rest) ← takeNested '\x7b' '\x7d' 0 none [] rest
    return (bracedPart inner quoted, rest)
  | c :: rest =>
    if isNameStart c then
      .ok (.parameter (String.ofList (c :: rest.takeWhile isNamePart)) none quoted,
        rest.dropWhile isNamePart)
    else if isSpecial c then .ok (.parameter (String.singleton c) none quoted, rest)
    else .ok (.literal "$" quoted, c :: rest)
  | [] => .ok (.literal "$" quoted, [])

def literal (taken : List Char) (quoted : Bool) : Part :=
  .literal (String.ofList taken.reverse) quoted

/-- Puts the characters taken so far, backwards, before the parts, backwards. -/
def flush (taken : List Char) (quoted : Bool) (parts : List Part) : List Part :=
  if taken.isEmpty then parts else literal taken quoted :: parts

/-- Reads text in which parameters are quoted: up to a double quote if `open_`, else to its end.
The parts come backwards. -/
def readQuoted (closed : Bool) : Nat → List Char → List Part → ReadScript (List Part)
  | 0, _, _, text => fail unterminated text
  | fuel + 1, taken, parts, text =>
    match text with
    | [] => if closed then fail unterminated [] else .ok (flush taken true parts, [])
    | '\\' :: c :: rest =>
      if c == '\n' then readQuoted closed fuel taken parts rest
      else if c == '$' || c == '\x60' || c == '\\' || (closed && c == '"') then
        readQuoted closed fuel (c :: taken) parts rest
      else readQuoted closed fuel (c :: '\\' :: taken) parts rest
    | '$' :: rest => do
      let (part, rest) ← readDollar true rest
      readQuoted closed fuel [] (part :: flush taken true parts) rest
    | '\x60' :: rest => do
      let (inner, rest) ← takeGrave [] rest
      readQuoted closed fuel [] (.output (String.ofList inner) true :: flush taken true parts)
        rest
    | c :: rest =>
      if closed && c == '"' then .ok (literal taken true :: parts, rest)
      else readQuoted closed fuel (c :: taken) parts rest

def readParts (wholeText : Bool) : Nat → List Char → List Part → ReadScript (List Part)
  | 0, taken, parts, text => .ok (flush taken false parts, text)
  | fuel + 1, taken, parts, text =>
    match text with
    | [] => .ok (flush taken false parts, [])
    | '\\' :: '\n' :: rest => readParts wholeText fuel taken parts rest
    | '\\' :: c :: rest =>
      readParts wholeText fuel [] (literal [c] true :: flush taken false parts) rest
    | '\'' :: rest => do
      let (inner, rest) ← takeSingle [] rest
      readParts wholeText fuel [] (literal inner.reverse true :: flush taken false parts) rest
    | '"' :: rest => do
      let (parts, rest) ← readQuoted true (rest.length + 1) [] (flush taken false parts) rest
      readParts wholeText fuel [] parts rest
    | '$' :: rest => do
      let (part, rest) ← readDollar false rest
      readParts wholeText fuel [] (part :: flush taken false parts) rest
    | '\x60' :: rest => do
      let (inner, rest) ← takeGrave [] rest
      readParts wholeText fuel [] (.output (String.ofList inner) false :: flush taken false parts)
        rest
    | c :: rest =>
      if !wholeText && isDelimiter c then .ok (flush taken false parts, c :: rest)
      else readParts wholeText fuel (c :: taken) parts rest

def readWord : ReadScript Word := fun text => do
  let (parts, rest) ← readParts false (text.length + 1) [] [] text
  return (parts.reverse, rest)

def wordOfText (text : String) (quoted : Bool) : Except ScriptFault Word := do
  let characters := text.toList
  let (parts, _) ←
    if quoted then readQuoted false (characters.length + 1) [] [] characters
    else readParts true (characters.length + 1) [] [] characters
  return parts.reverse

/-- The word that stands next, if no part of it is quoted. -/
def bareWord (text : List Char) : String :=
  String.ofList (text.takeWhile fun c =>
    !isDelimiter c && !(['\'', '"', '\\', '$', '\x60']).contains c)

def nextToken (text : List Char) : String :=
  match text with
  | ';' :: ';' :: _ => ";;"
  | '&' :: '&' :: _ => "&&"
  | '|' :: '|' :: _ => "||"
  | c :: _ => if isDelimiter c then String.singleton c else bareWord text
  | [] => ""

def failAt {α : Type} (text : List Char) : Except ScriptFault α :=
  match text with
  | [] => fail unexpectedEnd text
  | '\n' :: _ => fail "newline unexpected" text
  | _ => fail (unexpected (nextToken text)) text

/-- The name and what follows it, if a value is assigned to the name. -/
def assignment? (text : List Char) : Option (String × List Char) :=
  match text with
  | c :: _ =>
    if isNameStart c then
      match text.dropWhile isNamePart with
      | '=' :: rest => some (String.ofList (text.takeWhile isNamePart), rest)
      | _ => none
    else none
  | [] => none

/-- The lines up to the one that is `mark`, and what follows them. -/
def takeHere (mark : List Char) : Nat → List Char → List Char → List Char × List Char
  | 0, taken, text => (taken, text)
  | fuel + 1, taken, text =>
    let line := text.takeWhile (· != '\n')
    let rest := text.drop (line.length + 1)
    if line == mark then (taken, rest)
    else if text.isEmpty then (taken, [])
    else takeHere mark fuel (taken ++ line ++ ['\n']) rest

/-- Reads a text that stands below the line, up to a mark. -/
def readHere (stream : Nat) : ReadScript Redirection := fun text => do
  let (mark, rest) ← readWord (skipBlanks text)
  let plain := mark.all fun
    | .literal _ quoted => !quoted
    | _ => true
  let characters := mark.flatMap fun
    | .literal part _ => part.toList
    | _ => []
  let line := rest.takeWhile (· != '\n')
  let below := rest.drop (line.length + 1)
  let (body, later) := takeHere characters (below.length + 1) [] below
  let word ←
    if plain then wordOfText (String.ofList body) true
    else pure [Part.literal (String.ofList body) true]
  return (⟨stream, .text, word⟩, line ++ '\n' :: later)

def readRedirection? (text : List Char) :
    Except ScriptFault (Option (Redirection × List Char)) :=
  let digits := text.takeWhile Char.isDigit
  let stream (usual : Nat) : Nat := ((String.ofList digits).toNat?).getD usual
  let target (kind : RedirectionKind) (usual : Nat) (rest : List Char) := do
    let rest := skipBlanks rest
    let (word, rest') ← readWord rest
    if word.isEmpty then failAt rest
    else return some (⟨stream usual, kind, word⟩, rest')
  match text.drop digits.length with
  | '>' :: '>' :: rest => target .append 1 rest
  | '>' :: '&' :: rest => target .duplicate 1 rest
  | '>' :: '|' :: rest => target .write 1 rest
  | '>' :: rest => target .write 1 rest
  | '<' :: '<' :: rest => do return some (← readHere (stream 0) rest)
  | '<' :: '&' :: rest => target .duplicate 0 rest
  | '<' :: rest => target .read 0 rest
  | _ => .ok none

def readRedirections : Nat → List Redirection → ReadScript (List Redirection)
  | 0, found, text => .ok (found.reverse, text)
  | fuel + 1, found, text => do
    match ← readRedirection? (skipBlanks text) with
    | some (redirection, rest) => readRedirections fuel (redirection :: found) rest
    | none => return (found.reverse, text)

/-- Reads the rest of a simple command. The lists of `found` are backwards. -/
def readSimple : Nat → SimpleCommand → ReadScript SimpleCommand
  | 0, found, text => .ok (found, text)
  | fuel + 1, found, text => do
    let text := skipBlanks text
    match ← readRedirection? text with
    | some (redirection, rest) =>
      readSimple fuel { found with redirections := redirection :: found.redirections } rest
    | none =>
      match text with
      | [] => return (found, text)
      | c :: _ =>
        if isDelimiter c then return (found, text)
        else
          match if found.words.isEmpty then assignment? text else none with
          | some (name, rest) =>
            let (word, rest) ← readWord rest
            readSimple fuel { found with assignments := (name, word) :: found.assignments } rest
          | none =>
            let (word, rest) ← readWord text
            readSimple fuel { found with words := word :: found.words } rest

/-- A command as it is run. Assignments that stand alone take place one after another. -/
def scriptOfSimple (found : SimpleCommand) : Script :=
  let command := { found with
    assignments := found.assignments.reverse
    words := found.words.reverse
    redirections := found.redirections.reverse }
  match command.words, command.redirections, command.assignments with
  | [], [], first :: later =>
    later.foldl
      (fun script assigned => .following script (.simple ⟨command.line, [assigned], [], []⟩))
      (.simple ⟨command.line, [first], [], []⟩)
  | _, _, _ => .simple command

def closingWords : List String := ["then", "else", "elif", "fi", "do", "done", "\x7d", "esac"]

def isClosed (text : List Char) : Bool :=
  text.isEmpty || text.head? == some ')' || [';', ';'].isPrefixOf text ||
    closingWords.contains (bareWord text)

def lineAt (total : Nat) (rest : List Char) : Nat := total + 1 - rest.count '\n'

def expect (token : String) : ReadScript Unit := fun text =>
  let text := skipLines (text.length + 1) text
  let expecting := " (expecting \"" ++ token ++ "\")"
  if text.isEmpty then fail (unexpectedEnd ++ expecting) text
  else if nextToken text == token then .ok ((), text.drop token.length)
  else fail (unexpected (nextToken text) ++ expecting) text

def readItems : Nat → List Word → ReadScript (List Word)
  | 0, found, text => .ok (found.reverse, text)
  | fuel + 1, found, text => do
    match skipBlanks text with
    | [] => return (found.reverse, [])
    | c :: rest =>
      if isDelimiter c then return (found.reverse, c :: rest)
      else
        let (word, rest) ← readWord (c :: rest)
        readItems fuel (word :: found) rest

/-- The items that a loop runs over; the arguments if none are named. -/
def readIn : ReadScript (Option (List Word)) := fun text => do
  let text' := skipLines (text.length + 1) text
  if bareWord text' == "in" then
    let (items, rest) ← readItems (text'.length + 1) [] (text'.drop 2)
    return (some items, rest)
  else return (none, text)

def skipSeparator (text : List Char) : List Char :=
  match skipLines (text.length + 1) text with
  | ';' :: rest => rest
  | rest => rest

mutual

/-- Reads commands up to the end of their list: the end of the line, or if `inner` what closes a
compound command. -/
def readList (total : Nat) : Nat → Bool → ReadScript Script
  | 0, _, text => fail unexpectedEnd text
  | fuel + 1, inner, text => do
    let text := if inner then skipLines (text.length + 1) text else skipBlanks text
    if inner && isClosed text || text.isEmpty || text.head? == some '\n' then
      return (.nothing, text)
    let (first, rest) ← readChain total fuel text
    match skipBlanks rest with
    | '&' :: rest =>
      let (second, rest) ← readList total fuel inner rest
      return (.following (.background first) second, rest)
    | ';' :: ';' :: rest =>
      if inner then return (first, ';' :: ';' :: rest) else failAt (';' :: ';' :: rest)
    | ';' :: rest =>
      let (second, rest) ← readList total fuel inner rest
      return (.following first second, rest)
    | '\n' :: rest =>
      if inner then
        let (second, rest) ← readList total fuel inner rest
        return (.following first second, rest)
      else return (first, rest)
    | [] => return (first, [])
    | rest => if inner && isClosed rest then return (first, rest) else failAt rest

def readChain (total : Nat) : Nat → ReadScript Script
  | 0, text => fail unexpectedEnd text
  | fuel + 1, text => do
    let (first, rest) ← readPipeline total fuel text
    chainFrom total fuel first rest

def chainFrom (total : Nat) : Nat → Script → ReadScript Script
  | 0, _, text => fail unexpectedEnd text
  | fuel + 1, first, text => do
    match skipBlanks text with
    | '&' :: '&' :: rest =>
      let (second, rest) ← readPipeline total fuel (skipLines (rest.length + 1) rest)
      chainFrom total fuel (.both first second) rest
    | '|' :: '|' :: rest =>
      let (second, rest) ← readPipeline total fuel (skipLines (rest.length + 1) rest)
      chainFrom total fuel (.either first second) rest
    | rest => return (first, rest)

def readPipeline (total : Nat) : Nat → ReadScript Script
  | 0, text => fail unexpectedEnd text
  | fuel + 1, text => do
    let text := skipBlanks text
    if bareWord text == "!" then
      let (body, rest) ← readPipeline total fuel (text.drop 1)
      return (.negated body, rest)
    else
      let (first, rest) ← readCommand total fuel text
      match skipBlanks rest with
      | '|' :: '|' :: later => return (first, '|' :: '|' :: later)
      | '|' :: later =>
        let (second, rest) ← readPipeline total fuel (skipLines (later.length + 1) later)
        return (.piped first second, rest)
      | rest => return (first, rest)

def readCommand (total : Nat) : Nat → ReadScript Script
  | 0, text => fail unexpectedEnd text
  | fuel + 1, text => do
    let word := bareWord text
    let line := lineAt total text
    let compound ← match text, word with
      | '(' :: rest, _ => do
        let (body, rest) ← readList total fuel true rest
        let (_, rest) ← expect ")" rest
        pure (some (Script.isolated body, rest))
      | _, "\x7b" => do
        let (body, rest) ← readList total fuel true (text.drop 1)
        let (_, rest) ← expect "\x7d" rest
        pure (some (body, rest))
      | _, "if" => do
        let (body, rest) ← readBranch total fuel (text.drop 2)
        pure (some (body, rest))
      | _, "while" => do
        let (body, rest) ← readLoop total fuel false (text.drop 5)
        pure (some (body, rest))
      | _, "until" => do
        let (body, rest) ← readLoop total fuel true (text.drop 5)
        pure (some (body, rest))
      | _, "for" => do
        let text := skipBlanks (text.drop 3)
        let name := text.takeWhile isNamePart
        if !(name.head?.any isNameStart) then fail "Bad for loop variable" text
        else
          let (items, rest) ← readIn (text.drop name.length)
          let (body, rest) ← readBody total fuel (skipSeparator rest)
          pure (some (.each (String.ofList name) items body, rest))
      | _, _ => pure none
    match compound with
    | some (body, rest) =>
      let (redirections, rest) ← readRedirections (rest.length + 1) [] rest
      return (if redirections.isEmpty then body else .redirected line body redirections, rest)
    | none =>
      if closingWords.contains word then failAt text
      else
        let (found, rest) ← readSimple (text.length + 1) ⟨line, [], [], []⟩ text
        if found.words.isEmpty && found.assignments.isEmpty && found.redirections.isEmpty then
          failAt rest
        else match rest with
          | '(' :: _ => failAt rest
          | _ => return (scriptOfSimple found, rest)

def readBranch (total : Nat) : Nat → ReadScript Script
  | 0, text => fail unexpectedEnd text
  | fuel + 1, text => do
    let (condition, rest) ← readList total fuel true text
    let (_, rest) ← expect "then" rest
    let (consequent, rest) ← readList total fuel true rest
    match bareWord rest with
    | "elif" =>
      let (alternative, rest) ← readBranch total fuel (rest.drop 4)
      return (.branch condition consequent alternative, rest)
    | "else" =>
      let (alternative, rest) ← readList total fuel true (rest.drop 4)
      let (_, rest) ← expect "fi" rest
      return (.branch condition consequent alternative, rest)
    | _ =>
      let (_, rest) ← expect "fi" rest
      return (.branch condition consequent .nothing, rest)

def readLoop (total : Nat) : Nat → Bool → ReadScript Script
  | 0, _, text => fail unexpectedEnd text
  | fuel + 1, untilTrue, text => do
    let (condition, rest) ← readList total fuel true text
    let (body, rest) ← readBody total fuel rest
    return (.loop untilTrue condition body, rest)

def readBody (total : Nat) : Nat → ReadScript Script
  | 0, text => fail unexpectedEnd text
  | fuel + 1, text => do
    let (_, rest) ← expect "do" text
    let (body, rest) ← readList total fuel true rest
    let (_, rest) ← expect "done" rest
    return (body, rest)

end

/-- Reads the commands of the next line, which may run over more lines. -/
def readLine (total : Nat) (text : List Char) : Except ScriptFault (Script × List Char) :=
  readList total (8 * text.length + 16) false text

end Reader

end SourceIndex.Shell
