import SourceIndex.Grammar.Rule
import Std.Data.HashMap

set_option autoImplicit false

namespace SourceIndex

namespace Rule

variable {α β : Type}

mutual
def leaves : Rule α → List α
  | blank => []
  | leaf value => [value]
  | seq rules => leavesAll rules
  | choice rules => leavesAll rules
  | many1 rule => rule.leaves
  | marked _ rule => rule.leaves

def leavesAll : List (Rule α) → List α
  | [] => []
  | rule :: rest => rule.leaves ++ leavesAll rest
end

mutual
def map (f : α → β) : Rule α → Rule β
  | blank => blank
  | leaf value => leaf (f value)
  | seq rules => seq (mapAll f rules)
  | choice rules => choice (mapAll f rules)
  | many1 rule => many1 (rule.map f)
  | marked marks rule => marked marks (rule.map f)

def mapAll (f : α → β) : List (Rule α) → List (Rule β)
  | [] => []
  | rule :: rest => rule.map f :: mapAll f rest
end

end Rule

/-- A symbol of the grammar, numbered among its own sort. -/
inductive Sym where
  | terminal (index : Nat)
  | external (index : Nat)
  | rule (index : Nat)
deriving BEq, DecidableEq, Hashable, Inhabited

/-- How a symbol shows in the tree: as a node of its kind, as a spelled token, or not at all.
`auxiliary` symbols are made during preparation and have no name of their own. -/
inductive Showing where
  | named
  | spelled
  | hidden
  | auxiliary
deriving BEq, DecidableEq, Inhabited

structure LexicalEntry where
  name : String
  showing : Showing
  token : Token
deriving Inhabited

structure RuleEntry where
  name : String
  showing : Showing
  rule : Rule Sym
deriving Inhabited

structure ExternalEntry where
  name : String
  showing : Showing
  /-- The lexical token this external token stands for, if the grammar has one. -/
  standsFor : Option Nat
deriving Inhabited

/-- A grammar whose tokens are set apart from its rules. -/
structure Lexicon where
  tokens : Array LexicalEntry
  rules : Array RuleEntry
  externals : Array ExternalEntry
  separators : List Pattern
  extras : List Sym
  word : Option Nat
deriving Inhabited

/-- Rules whose names start with an underscore, and rules that only group others, leave no node. -/
def Grammar.showingOf (grammar : Grammar) (name : String) : Showing :=
  if name.startsWith "_" || grammar.supertypes.contains name then .hidden else .named

namespace Lexicon

/-- The tokens met so far, with the plain spellings among them indexed. -/
structure Known where
  entries : Array LexicalEntry := #[]
  literals : Std.HashMap String Nat := {}

namespace Known

def isPlain (token : Token) : Bool := token.level == 0 && !token.immediate

def index? (known : Known) (token : Token) : Option Nat :=
  match token.spelling?, isPlain token with
  | some text, true => known.literals[text]?
  | _, _ => known.entries.findIdx? fun entry => entry.token == token

/-- Adds a token that the rule `name` uses, if it is new. -/
def add (name : String) (known : Known) (token : Token) : Known :=
  if (known.index? token).isSome then known
  else match token.spelling? with
    | none => { known with entries := known.entries.push ⟨name, .auxiliary, token⟩ }
    | some text =>
      { entries := known.entries.push ⟨text, .spelled, token⟩
        literals := if isPlain token then known.literals.insert text known.entries.size
          else known.literals }

end Known

def usedTokens (leaves : List Reference) : List Token :=
  leaves.filterMap fun reference =>
    match reference with
    | .token token => some token
    | .rule _ => none

def countUses (known : Known) (used : List Token) : Array Nat :=
  used.foldl (fun counts token =>
    match known.index? token with
    | some index => counts.modify index (· + 1)
    | none => counts)
    (Array.replicate known.entries.size 0)

/-- The token that is all of a rule and that no other rule uses: the rule becomes its name. -/
def soleToken? (grammar : Grammar) (known : Known) (uses : Array Nat) (name : String) :
    Rule Reference → Option Nat
  | .leaf (.token token) =>
    (known.index? token).filter fun index =>
      uses[index]? == some 1 &&
        ((known.entries[index]?.map (·.showing)) == some .auxiliary ||
          grammar.showingOf name != .hidden)
  | _ => none

/-- Where each written rule goes: to a token, or to its place among the rules that remain. -/
def placements : List (Option Nat) → Nat → List Sym
  | [], _ => []
  | some index :: rest, next => .terminal index :: placements rest next
  | none :: rest, next => .rule next :: placements rest (next + 1)

def externalNames (externals : List Reference) : List (String × Sym) :=
  externals.zipIdx.filterMap fun (reference, index) =>
    match reference with
    | .rule name => some (name, .external index)
    | .token _ => none

def ofGrammar (grammar : Grammar) : Lexicon :=
  let known := grammar.rules.foldl
    (fun known entry => (usedTokens entry.2.leaves).foldl (Known.add entry.1) known) {}
  let known := (usedTokens grammar.externals).foldl (Known.add "") known
  let uses := countUses known
    (grammar.rules.flatMap (fun entry => usedTokens entry.2.leaves) ++
      usedTokens grammar.externals)
  let sole := grammar.rules.zipIdx.map fun (entry, position) =>
    if position == 0 then none else soleToken? grammar known uses entry.1 entry.2
  let tokens := (grammar.rules.zip sole).foldl (fun tokens (entry, place) =>
    match place with
    | some index => tokens.modify index fun token =>
      { token with name := entry.1, showing := grammar.showingOf entry.1 }
    | none => tokens) known.entries
  let places : Std.HashMap String Sym :=
    (grammar.rules.zip (placements sole 0)).foldl
      (fun places (entry, sym) => places.insertIfNew entry.1 sym) {}
  let places := (externalNames grammar.externals).foldl
    (fun places (name, sym) => places.insertIfNew name sym) places
  let resolve : Reference → Sym
    | .token token => .terminal ((known.index? token).getD 0)
    | .rule name => places.getD name (.rule 0)
  let rules := (grammar.rules.zip sole).filterMap fun (entry, place) =>
    match place with
    | some _ => none
    | none => some
      { name := entry.1, showing := grammar.showingOf entry.1,
        rule := entry.2.map resolve : RuleEntry }
  let externals := grammar.externals.map fun reference =>
    match resolve reference, reference with
    | .terminal index, _ =>
      { name := (tokens[index]?.map (·.name)).getD "", showing := .spelled,
        standsFor := some index : ExternalEntry }
    | _, .rule name => { name, showing := grammar.showingOf name, standsFor := none }
    | _, .token _ => { name := "", showing := .hidden, standsFor := none }
  let extras := grammar.extras.filterMap fun rule =>
    match rule with
    | .leaf (.rule name) => places[name]?
    | .leaf (.token token) => (known.index? token).map .terminal
    | _ => none
  let separators := grammar.extras.filterMap fun rule =>
    match rule with
    | .leaf (.token token) => if (known.index? token).isSome then none else some token.pattern
    | _ => none
  let word := (grammar.word.bind (places[·]?)).bind fun sym =>
    match sym with
    | .terminal index => some index
    | _ => none
  { tokens, rules := rules.toArray, externals := externals.toArray, separators, extras, word }

end Lexicon

end SourceIndex
