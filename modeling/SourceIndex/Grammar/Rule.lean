import SourceIndex.Grammar.Pattern

/-
Grammar rules. A rule is built from tokens and names of other rules by sequence, choice and
repetition; parts of it carry marks that settle ambiguities and name what is found.
-/

set_option autoImplicit false

namespace SourceIndex

/-- How strongly a construct binds: not said, a number, or a name that the grammar orders. -/
inductive Precedence where
  | unset
  | level (value : Int)
  | named (name : String)
deriving BEq, DecidableEq, Inhabited

inductive Associativity where
  | left
  | right
deriving BEq, DecidableEq, Inhabited

/-- Another name under which a node appears; `named` tells kinds of nodes from spelled tokens. -/
structure Alias where
  name : String
  named : Bool
deriving BEq, DecidableEq, Inhabited

structure Marks where
  precedence : Precedence := .unset
  associativity : Option Associativity := none
  dynamic : Int := 0
  aliased : Option Alias := none
  field : Option String := none
deriving BEq, Inhabited

/-- A lexical unit. An `immediate` token admits no separator before it. -/
structure Token where
  pattern : Pattern
  level : Int := 0
  immediate : Bool := false
deriving BEq, Inhabited

namespace Token

def literal (text : String) : Token := ⟨.text text, 0, false⟩

def spelling? (token : Token) : Option String :=
  match token.pattern with
  | .text text => some text
  | _ => none

/-- Between tokens of equal level, a fixed spelling wins over a pattern, and an immediate token
over one that may follow separators. -/
def specificity (token : Token) : Nat :=
  (if token.spelling?.isSome then 2 else 0) + (if token.immediate then 1 else 0)

end Token

inductive Rule (α : Type) where
  | blank
  | leaf (value : α)
  | seq (rules : List (Rule α))
  | choice (rules : List (Rule α))
  | many1 (rule : Rule α)
  | marked (marks : Marks) (rule : Rule α)
deriving BEq, Inhabited

/-- What a written rule refers to: a token, or a rule by name. -/
inductive Reference where
  | token (token : Token)
  | rule (name : String)
deriving BEq, Inhabited

namespace Rule

variable {α : Type}

/-- Adds to the marks of a rule, without nesting two sets of marks. -/
def mark (change : Marks → Marks) : Rule α → Rule α
  | marked marks rule => marked (change marks) rule
  | rule => marked (change {}) rule

def opt (rule : Rule α) : Rule α := choice [rule, blank]

def many (rule : Rule α) : Rule α := choice [many1 rule, blank]

def prec (level : Int) (rule : Rule α) : Rule α :=
  rule.mark fun marks => { marks with precedence := .level level }

def precNamed (name : String) (rule : Rule α) : Rule α :=
  rule.mark fun marks => { marks with precedence := .named name }

def left (rule : Rule α) (level : Int := 0) : Rule α :=
  rule.mark fun marks => { marks with precedence := .level level, associativity := some .left }

def right (rule : Rule α) (level : Int := 0) : Rule α :=
  rule.mark fun marks => { marks with precedence := .level level, associativity := some .right }

def leftNamed (name : String) (rule : Rule α) : Rule α :=
  rule.mark fun marks => { marks with precedence := .named name, associativity := some .left }

def rightNamed (name : String) (rule : Rule α) : Rule α :=
  rule.mark fun marks => { marks with precedence := .named name, associativity := some .right }

def dynamic (weight : Int) (rule : Rule α) : Rule α :=
  rule.mark fun marks => { marks with dynamic := weight }

def field (name : String) (rule : Rule α) : Rule α :=
  rule.mark fun marks => { marks with field := some name }

def renamed (name : String) (rule : Rule α) : Rule α :=
  rule.mark fun marks => { marks with aliased := some ⟨name, true⟩ }

def spelled (text : String) (rule : Rule α) : Rule α :=
  rule.mark fun marks => { marks with aliased := some ⟨text, false⟩ }

instance : Coe String (Rule Reference) := ⟨fun text => leaf (.token (.literal text))⟩

instance : Coe Pattern (Rule Reference) := ⟨fun pattern => leaf (.token ⟨pattern, 0, false⟩)⟩

def lbrace : Rule Reference := "\x7b"

def rbrace : Rule Reference := "\x7d"

def braced (rule : Rule Reference) : Rule Reference := seq [lbrace, rule, rbrace]

def anyOf (texts : List String) : Rule Reference :=
  choice (texts.map fun text => leaf (.token (.literal text)))

def ref (name : String) : Rule Reference := leaf (.rule name)

def token (pattern : Pattern) (level : Int := 0) : Rule Reference :=
  leaf (.token ⟨pattern, level, false⟩)

def immediate (pattern : Pattern) (level : Int := 0) : Rule Reference :=
  leaf (.token ⟨pattern, level, true⟩)

def commaSep1 (rule : Rule Reference) : Rule Reference := seq [rule, many (seq [",", rule])]

def commaSep (rule : Rule Reference) : Rule Reference := opt (commaSep1 rule)

end Rule

/-- An entry of a precedence order: a precedence name or the name of a rule. -/
inductive Rank where
  | precedence (name : String)
  | rule (name : String)
deriving BEq, Inhabited

/-- A grammar as it is written. The first rule is the whole text. -/
structure Grammar where
  rules : List (String × Rule Reference)
  /-- What may stand between any two tokens. -/
  extras : List (Rule Reference)
  /-- Tokens that a scanner of their own finds, in the order in which it numbers them. -/
  externals : List Reference
  /-- Rules that leave no node and are replaced by their bodies. -/
  inlined : List String := []
  /-- Rules that only group other rules. -/
  supertypes : List String := []
  /-- The token that keywords are read as first. -/
  word : Option String := none
  /-- Orders of named precedences, strongest first. -/
  orders : List (List Rank) := []
deriving Inhabited

end SourceIndex
