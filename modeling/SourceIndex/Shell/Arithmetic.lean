set_option autoImplicit false

namespace SourceIndex.Shell

namespace Arithmetic

inductive Token where
  | number (value : Int)
  | name (text : String)
  | operator (text : String)
deriving DecidableEq, Repr, Inhabited

inductive Fault where
  | divisionByZero
  | notAnExpression
deriving DecidableEq, Repr, Inhabited

def isNamePart (c : Char) : Bool := c.isAlphanum || c == '_'

def doubled : List String := ["==", "!=", "<=", ">=", "&&", "||", "<<", ">>"]

/-- The number that digits spell, in octal or hexadecimal after a zero. -/
def numberOf (digits : List Char) : Nat :=
  let value (base : Nat) (digits : List Char) : Nat :=
    digits.foldl (fun value c =>
      value * base + (if c.isDigit then c.toNat - '0'.toNat else c.toLower.toNat - 'a'.toNat + 10))
      0
  match digits with
  | '0' :: 'x' :: rest => value 16 rest
  | '0' :: rest => value 8 rest
  | rest => value 10 rest

/-- The tokens of an expression; the fuel is the length of the text. -/
def tokens : Nat → List Char → List Token
  | 0, _ => []
  | fuel + 1, text =>
    match text with
    | [] => []
    | c :: rest =>
      if c.isWhitespace then tokens fuel rest
      else if isNamePart c then
        let word := text.takeWhile isNamePart
        let token :=
          if c.isDigit then .number (numberOf word) else .name (String.ofList word)
        token :: tokens fuel (text.dropWhile isNamePart)
      else
        let pair := String.ofList (text.take 2)
        if doubled.contains pair then .operator pair :: tokens fuel (text.drop 2)
        else .operator (String.singleton c) :: tokens fuel rest

def wrap (value : Int) : Int := Int.bmod value (Nat.pow 2 64)

def ofBool (value : Bool) : Int := if value then 1 else 0

def strength? (operator : String) : Option Nat :=
  match operator with
  | "||" => some 1
  | "&&" => some 2
  | "==" | "!=" => some 3
  | "<" | ">" | "<=" | ">=" => some 4
  | "+" | "-" => some 5
  | "*" | "/" | "%" => some 6
  | _ => none

def apply (operator : String) (a b : Int) : Except Fault Int :=
  match operator with
  | "||" => .ok (ofBool (a != 0 || b != 0))
  | "&&" => .ok (ofBool (a != 0 && b != 0))
  | "==" => .ok (ofBool (a == b))
  | "!=" => .ok (ofBool (a != b))
  | "<" => .ok (ofBool (a < b))
  | ">" => .ok (ofBool (b < a))
  | "<=" => .ok (ofBool (a ≤ b))
  | ">=" => .ok (ofBool (b ≤ a))
  | "+" => .ok (wrap (a + b))
  | "-" => .ok (wrap (a - b))
  | "*" => .ok (wrap (a * b))
  | "/" => if b == 0 then .error .divisionByZero else .ok (wrap (Int.tdiv a b))
  | "%" => if b == 0 then .error .divisionByZero else .ok (wrap (Int.tmod a b))
  | _ => .error .notAnExpression

mutual

/-- An operand: a number, a variable, a signed operand, or an expression in parentheses. -/
def operand (value : String → Int) : Nat → List Token → Except Fault (Int × List Token)
  | 0, _ => .error .notAnExpression
  | fuel + 1, tokens =>
    match tokens with
    | .number number :: rest => .ok (wrap number, rest)
    | .name name :: rest => .ok (value name, rest)
    | .operator "-" :: rest => do
      let (number, rest) ← operand value fuel rest
      return (wrap (-number), rest)
    | .operator "+" :: rest => operand value fuel rest
    | .operator "!" :: rest => do
      let (number, rest) ← operand value fuel rest
      return (ofBool (number == 0), rest)
    | .operator "(" :: rest => do
      match ← expression value fuel 1 rest with
      | (number, .operator ")" :: rest) => return (number, rest)
      | _ => throw .notAnExpression
    | _ => .error .notAnExpression

/-- An expression whose operators bind at least with `strength`. -/
def expression (value : String → Int) : Nat → Nat → List Token → Except Fault (Int × List Token)
  | 0, _, _ => .error .notAnExpression
  | fuel + 1, strength, tokens => do
    let (first, rest) ← operand value fuel tokens
    chain value fuel strength first rest

def chain (value : String → Int) : Nat → Nat → Int → List Token →
    Except Fault (Int × List Token)
  | 0, _, _, _ => .error .notAnExpression
  | fuel + 1, strength, first, tokens =>
    match tokens with
    | .operator operator :: rest =>
      match strength? operator with
      | some own =>
        if own < strength then .ok (first, tokens)
        else do
          let (second, rest) ← expression value fuel (own + 1) rest
          chain value fuel strength (← apply operator first second) rest
      | none => .ok (first, tokens)
    | _ => .ok (first, tokens)

end

/-- The value of an expression, given the values of variables. -/
def evaluate (value : String → Int) (text : String) : Except Fault Int := do
  let tokens := tokens (text.length + 1) text.toList
  match tokens with
  | [] => return 0
  | _ =>
    match ← expression value (4 * tokens.length + 8) 1 tokens with
    | (number, []) => return number
    | _ => throw .notAnExpression

/-- The number that a variable holds; zero if it holds none. -/
def numberIn (text : String) : Int :=
  match text.trimAscii.toString.toInt? with
  | some value => wrap value
  | none => 0

end Arithmetic

end SourceIndex.Shell
