set_option autoImplicit false

namespace SourceIndex.Shell

/-- Bytes as a text of the shell, in which each character stands for one byte. -/
def ofBytes (bytes : List UInt8) : String :=
  String.ofList (bytes.map fun byte => Char.ofNat byte.toNat)

def toBytes (text : String) : List UInt8 := text.toList.map fun c => c.toNat.toUInt8

/-- Which escapes a text may have besides the usual ones. -/
structure EscapeRules where
  /-- A zero before an octal number does not count among its three digits. -/
  zeroLead : Bool
  /-- An escape can end the whole output. -/
  stops : Bool
  /-- Bytes can be written in hexadecimal, and quotes be escaped. -/
  wide : Bool
deriving DecidableEq, Repr, Inhabited

/-- What an escape gives, and whether it ends the output. -/
structure Escaped where
  bytes : List UInt8
  rest : List Char
  stopped : Bool := false
deriving DecidableEq, Repr, Inhabited

namespace EscapeRules

def digitValue? (base : Nat) (c : Char) : Option Nat :=
  let value :=
    if '0' ≤ c ∧ c ≤ '9' then c.toNat - '0'.toNat
    else if 'a' ≤ c ∧ c ≤ 'f' then c.toNat - 'a'.toNat + 10
    else if 'A' ≤ c ∧ c ≤ 'F' then c.toNat - 'A'.toNat + 10
    else base
  if value < base then some value else none

/-- The number that up to `limit` digits spell, and what follows them. -/
def digits (base : Nat) : Nat → Nat → List Char → Nat × List Char
  | 0, value, text => (value, text)
  | limit + 1, value, c :: rest =>
    match digitValue? base c with
    | some digit => digits base limit (value * base + digit) rest
    | none => (value, c :: rest)
  | _, value, [] => (value, [])

def letter? (c : Char) : Option Nat :=
  match c with
  | 'a' => some 7
  | 'b' => some 8
  | 'f' => some 12
  | 'n' => some 10
  | 'r' => some 13
  | 't' => some 9
  | 'v' => some 11
  | '\\' => some 92
  | _ => none

/-- Reads what follows a backslash. What is no escape keeps its backslash. -/
def read (rules : EscapeRules) (text : List Char) : Escaped :=
  let octal (text : List Char) : Escaped :=
    let (value, rest) := digits 8 3 0 text
    ⟨[value.toUInt8], rest, false⟩
  match text with
  | [] => ⟨[92], [], false⟩
  | c :: rest =>
    match letter? c with
    | some code => ⟨[code.toUInt8], rest, false⟩
    | none =>
      if c == 'c' && rules.stops then ⟨[], [], true⟩
      else if c == '0' && rules.zeroLead then octal rest
      else if (digitValue? 8 c).isSome then octal (c :: rest)
      else if c == '"' && rules.wide then ⟨[34], rest, false⟩
      else if c == 'e' && rules.wide then ⟨[27], rest, false⟩
      else if c == 'x' && rules.wide && (rest.head?.bind (digitValue? 16)).isSome then
        let (value, rest) := digits 16 2 0 rest
        ⟨[value.toUInt8], rest, false⟩
      else ⟨[92], c :: rest, false⟩

/-- Writes a text with its escapes, before the bytes of `written`, backwards. The fuel is the
length of the text. -/
def write (rules : EscapeRules) : Nat → List Char → List UInt8 → List UInt8 × Bool
  | 0, _, written => (written, false)
  | fuel + 1, text, written =>
    match text with
    | [] => (written, false)
    | '\\' :: rest =>
      let escaped := rules.read rest
      let written := escaped.bytes.reverseAux written
      if escaped.stopped then (written, true) else write rules fuel escaped.rest written
    | c :: rest => write rules fuel rest (c.toNat.toUInt8 :: written)

end EscapeRules

/-- A place in a format where an argument is put in. -/
structure Conversion where
  left : Bool
  zeros : Bool
  sign : Bool
  width : Nat
  precision : Option Nat
  letter : Char
deriving DecidableEq, Repr, Inhabited

inductive FormatFault where
  | notANumber (text : String)
  | noConversion (letter : Char)
deriving DecidableEq, Repr, Inhabited

def FormatFault.message (inner : Bool) : FormatFault → String
  | notANumber text =>
    if inner then text ++ ": expected numeric value"
    else "'" ++ text ++ "': expected a numeric value"
  | noConversion letter => "%" ++ String.singleton letter ++ ": invalid directive"

/-- What a format has written, backwards, and what is left of the arguments. -/
structure Formatting where
  written : List UInt8 := []
  args : List String := []
  faults : List FormatFault := []
  used : Bool := false
  stopped : Bool := false
deriving DecidableEq, Repr, Inhabited

namespace Formatting

def append (state : Formatting) (bytes : List UInt8) : Formatting :=
  { state with written := bytes.reverseAux state.written }

def pad (conversion : Conversion) (bytes : List UInt8) : List UInt8 :=
  let blanks := List.replicate (conversion.width - bytes.length) (32 : UInt8)
  if conversion.left then bytes ++ blanks else blanks ++ bytes

def padNumber (conversion : Conversion) (sign : String) (digits : List Char) : List UInt8 :=
  let least := conversion.precision.getD
    (if conversion.zeros && !conversion.left then conversion.width - sign.length else 0)
  let digits := List.replicate (least - digits.length) '0' ++ digits
  pad conversion (toBytes (sign ++ String.ofList digits))

/-- The number that an argument spells, and whether all of it belongs to the number. -/
def numberOf (text : String) : Int × Bool :=
  let (negative, rest) := match text.toList with
    | '-' :: rest => (true, rest)
    | '+' :: rest => (false, rest)
    | rest => (false, rest)
  let (value, left) := match rest with
    | '0' :: 'x' :: rest => EscapeRules.digits 16 rest.length 0 rest
    | '0' :: rest => EscapeRules.digits 8 rest.length 0 rest
    | '\'' :: c :: _ => (c.toNat, [])
    | '"' :: c :: _ => (c.toNat, [])
    | rest => EscapeRules.digits 10 rest.length 0 rest
  (if negative then -(value : Int) else value, left.isEmpty && !rest.isEmpty)

def next (state : Formatting) : Option String × Formatting :=
  match state.args with
  | [] => (none, { state with used := true })
  | arg :: args => (some arg, { state with args, used := true })

/-- Takes an argument that is a number; a missing one counts as zero. -/
def nextNumber (state : Formatting) : Int × Formatting :=
  match state.next with
  | (none, state) => (0, state)
  | (some text, state) =>
    let (value, whole) := numberOf text
    (value, if whole then state
      else { state with faults := .notANumber text :: state.faults })

def wordSize : Nat := Nat.pow 2 64

def convert (state : Formatting) (conversion : Conversion) : Formatting :=
  let unsigned (base : Nat) (upper : Bool) : Formatting :=
    let (value, state) := state.nextNumber
    let digits := Nat.toDigits base (value % wordSize).toNat
    state.append (padNumber conversion "" (if upper then digits.map Char.toUpper else digits))
  match conversion.letter with
  | '%' => state.append [37]
  | 's' =>
    let (text, state) := state.next
    let bytes := toBytes (text.getD "")
    state.append (pad conversion (match conversion.precision with
      | some most => bytes.take most
      | none => bytes))
  | 'c' =>
    let (text, state) := state.next
    state.append (pad conversion ((toBytes (text.getD "")).take 1))
  | 'b' =>
    let (text, state) := state.next
    let characters := (text.getD "").toList
    let (bytes, stopped) :=
      EscapeRules.write ⟨true, true, false⟩ (characters.length + 1) characters []
    { state.append (pad conversion bytes.reverse) with stopped }
  | 'd' | 'i' =>
    let (value, state) := state.nextNumber
    let sign := if value < 0 then "-" else if conversion.sign then "+" else ""
    state.append (padNumber conversion sign (toString value.natAbs).toList)
  | 'u' => unsigned 10 false
  | 'o' => unsigned 8 false
  | 'x' => unsigned 16 false
  | 'X' => unsigned 16 true
  | other =>
    { state with
      faults := .noConversion other :: state.faults
      stopped := true }

/-- Reads a number, or takes it from the arguments for a star. -/
def readCount (state : Formatting) (text : List Char) : Nat × Formatting × List Char :=
  match text with
  | '*' :: rest =>
    let (value, state) := state.nextNumber
    (value.toNat, state, rest)
  | _ =>
    let (value, rest) := EscapeRules.digits 10 text.length 0 text
    (value, state, rest)

def readConversion (state : Formatting) (text : List Char) :
    Conversion × Formatting × List Char :=
  let isFlag (c : Char) : Bool := ['-', '0', '+', ' ', '#'].contains c
  let flags := text.takeWhile isFlag
  let (width, state, rest) := readCount state (text.dropWhile isFlag)
  let (precision, state, rest) := match rest with
    | '.' :: rest =>
      let (precision, state, rest) := readCount state rest
      (some precision, state, rest)
    | rest => (none, state, rest)
  let (letter, rest) := match rest with
    | c :: rest => (c, rest)
    | [] => ('\x00', [])
  (⟨flags.contains '-', flags.contains '0', flags.contains '+', width, precision, letter⟩,
    state, rest)

def pass (rules : EscapeRules) : Nat → List Char → Formatting → Formatting
  | 0, _, state => state
  | fuel + 1, text, state =>
    if state.stopped then state
    else match text with
      | [] => state
      | '\\' :: rest =>
        let escaped := rules.read rest
        pass rules fuel escaped.rest
          { state.append escaped.bytes with stopped := escaped.stopped }
      | '%' :: rest =>
        let (conversion, state, rest) := readConversion state rest
        pass rules fuel rest (state.convert conversion)
      | c :: rest => pass rules fuel rest (state.append [c.toNat.toUInt8])

def passAll (rules : EscapeRules) (text : List Char) : Nat → Formatting → Formatting
  | 0, state => state
  | fuel + 1, state =>
    let state := pass rules (text.length + 1) text { state with used := false }
    if state.stopped || !state.used || state.args.isEmpty then state
    else passAll rules text fuel state

end Formatting

/-- What a format gives with its arguments, and what was wrong with them. -/
def formatArguments (rules : EscapeRules) (format : String) (args : List String) :
    List UInt8 × List FormatFault :=
  let state := Formatting.passAll rules format.toList (args.length + 1) { args := args }
  (state.written.reverse, state.faults.reverse)

end SourceIndex.Shell
