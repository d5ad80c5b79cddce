import SourceIndex.Grammar.Productions
import SourceIndex.Lexing.TokenAutomaton

/-
A grammar made ready for parsing. Symbols are numbered densely: the end of the text, the tokens,
then the rules; sets of tokens are natural numbers read as bit sets. An item is a production with
a place in it, and items that no later step can tell apart are one item.
-/

set_option autoImplicit false

namespace SourceIndex

structure SymbolInfo where
  name : String
  visible : Bool
  named : Bool
  /-- Made to stand for a repetition. -/
  auxiliary : Bool
  /-- Shows under another name wherever it appears. -/
  aliased : Bool
deriving Inhabited

/-- How the children of a reduced production appear. -/
structure NodeShape where
  rule : Nat
  size : Nat
  dynamic : Int
  aliases : Array (Option Alias)
  fields : Array (Option String)
  /-- Neither an alias nor a field, own or of a hidden child. -/
  plain : Bool
deriving Inhabited

structure Item where
  rule : Nat
  /-- How many symbols lie before the place. -/
  place : Nat
  size : Nat
  /-- The symbol after the place, if the item is not complete. -/
  next : Option Nat
  /-- The symbol after that. -/
  afterNext : Option Nat
  /-- The item one symbol further on. -/
  advanced : Nat
  precedence : Precedence
  associativity : Option Associativity
  /-- The number of the shape that the production reduces to. -/
  shape : Nat
deriving Inhabited

/-- A rule that may begin where another one begins: the tokens that can follow it inside that
rule, and whether it can end where that rule ends. -/
structure Opening where
  rule : Nat
  follow : Nat
  atEnd : Bool
deriving Inhabited

structure Tables where
  symbols : Array SymbolInfo
  /-- Symbols below this number are tokens. -/
  tokenCount : Nat
  /-- The tokens of the lexicon, numbered as symbols. -/
  lexicon : TokenAutomaton
  lexical : Nat
  word : Option Nat
  /-- The symbols that the external scanner finds, in its own numbering. -/
  externals : Array Nat
  /-- External symbols that no lexical token stands for. -/
  externalOnly : Nat
  /-- For each lexical token, the tokens that can come right after it. -/
  following : Array Nat
  extraTokens : Nat
  extraRules : Array Nat
  items : Array Item
  shapes : Array NodeShape
  startItem : Nat
  /-- For each symbol, the rules that have productions starting with it, with their items after
  that symbol. -/
  startsWith : Array (Array (Nat × Array Nat))
  firsts : Array Nat
  openings : Array (Array Opening)
  /-- The order in which the symbols are taken up: tokens found by the scanner alone, lexical
  tokens in the order of the grammar, then rules. -/
  order : Array Nat
  /-- Rules of which a unit production may be left out of the tree. -/
  skippable : Array Bool
  orders : List (List Rank)

namespace Tables

def bit (index : Nat) : Nat := 1 <<< index

def members (limit set : Nat) : List Nat := (List.range limit).filter set.testBit

structure Numbering where
  tokens : Array Nat
  externals : Array Nat
  tokenCount : Nat

/-- The word token comes first among the tokens, then the others in order, then the external
tokens that have no lexical token. -/
def numbering (lexicon : Lexicon) : Numbering :=
  let order := match lexicon.word with
    | some word => word :: (List.range lexicon.tokens.size).filter (· != word)
    | none => List.range lexicon.tokens.size
  let tokens := order.zipIdx.foldl (fun tokens (token, place) => tokens.set! token (place + 1))
    (Array.replicate lexicon.tokens.size 0)
  let (externals, tokenCount) := lexicon.externals.foldl (fun (found, next) entry =>
    match entry.standsFor with
    | some token => (found.push (tokens.getD token 0), next)
    | none => (found.push next, next + 1)) ((#[] : Array Nat), lexicon.tokens.size + 1)
  { tokens, externals, tokenCount }

def Numbering.symbol (numbering : Numbering) : Sym → Nat
  | .terminal index => numbering.tokens.getD index 0
  | .external index => numbering.externals.getD index 0
  | .rule index => numbering.tokenCount + 1 + index

def symbolInfo (name : String) (showing : Showing) (default : Option Alias) : SymbolInfo :=
  match default with
  | some otherName =>
    { name := otherName.name, visible := true, named := otherName.named
      auxiliary := showing == .auxiliary, aliased := true }
  | none =>
    { name, visible := showing == .named || showing == .spelled, named := showing == .named
      auxiliary := showing == .auxiliary, aliased := false }

structure NumberedStep where
  symbol : Nat
  step : Step
deriving Inhabited

structure NumberedProduction where
  rule : Nat
  steps : Array NumberedStep
  dynamic : Int
deriving Inhabited

def rankOf (names : Array String) (name : String) : Nat :=
  (names.findIdx? (· == name)).getD 0 + 1

def precedenceKey (names : Array String) : Precedence → List Nat
  | .unset => [0, 0]
  | .level value => [1, (value + 100000).toNat]
  | .named name => [2, rankOf names name]

def associativityKey : Option Associativity → Nat
  | none => 0
  | some .left => 1
  | some .right => 2

def aliasKey (names : Array String) : Option Alias → List Nat
  | none => [0, 0]
  | some otherName => [rankOf names otherName.name, if otherName.named then 2 else 1]

def fieldKey (names : Array String) : Option String → Nat
  | none => 0
  | some name => rankOf names name

/-- Two items with equal keys are one item. The symbols before the place count only if some of
them are hidden and have fields of their own. -/
def itemKey (names : Array String) (production : NumberedProduction) (place : Nat)
    (inherits : Bool) : List Nat :=
  let last := if place == 0 then none else production.steps[place - 1]?
  let before := (production.steps.extract 0 place).toList
  let rest := (production.steps.extract place production.steps.size).toList
  [place, production.rule, (production.dynamic + 100000).toNat, production.steps.size] ++
    precedenceKey names (match last with
      | some numbered => numbered.step.precedence
      | none => .unset) ++
    [associativityKey (last.bind fun numbered => numbered.step.associativity)] ++
    before.flatMap (fun numbered =>
      aliasKey names numbered.step.aliased ++ [fieldKey names numbered.step.field]) ++
    rest.flatMap (fun numbered =>
      numbered.symbol :: precedenceKey names numbered.step.precedence ++
        [associativityKey numbered.step.associativity] ++
        aliasKey names numbered.step.aliased ++ [fieldKey names numbered.step.field]) ++
    (if inherits then 1 :: before.map (·.symbol) else [0])

def lexLess : List Nat → List Nat → Bool
  | [], [] => true
  | [], _ :: _ => true
  | _ :: _, [] => false
  | a :: as, b :: bs => if a < b then true else if b < a then false else lexLess as bs

def markNames (productions : Array NumberedProduction) : Array String :=
  let names := productions.foldl (fun names production =>
    production.steps.foldl (fun names numbered =>
      let names := match numbered.step.aliased with
        | some otherName => names.insert otherName.name ()
        | none => names
      let names := match numbered.step.field with
        | some field => names.insert field ()
        | none => names
      match numbered.step.precedence with
      | .named name => names.insert name ()
      | _ => names) names) ({} : Std.HashMap String Unit)
  ((names.fold (fun list name _ => name :: list) []).mergeSort fun a b => a ≤ b).toArray

/-- A leftmost child of a rule: the symbol, and the symbol that follows it, if any. -/
structure Corner where
  symbol : Nat
  next : Option Nat

def cornersOf (productions : Array NumberedProduction) (symbolCount : Nat) :
    Array (Array Corner) :=
  productions.foldl (fun corners production =>
    match production.steps[0]? with
    | some first => corners.modify production.rule fun found =>
      let next := production.steps[1]?.map (·.symbol)
      if found.any (fun corner => corner.symbol == first.symbol && corner.next == next) then found
      else found.push ⟨first.symbol, next⟩
    | none => corners) (Array.replicate symbolCount #[])

def firstRound (corners : Array (Array Corner)) (firsts : Array Nat) : Array Nat :=
  corners.zipIdx.foldl (fun firsts (found, rule) =>
    if found.isEmpty then firsts
    else firsts.set! rule
      (found.foldl (fun set corner => set ||| firsts.getD corner.symbol 0) (firsts.getD rule 0)))
    firsts

def firstRounds (corners : Array (Array Corner)) : Nat → Array Nat → Array Nat
  | 0, firsts => firsts
  | fuel + 1, firsts =>
    let next := firstRound corners firsts
    if next == firsts then firsts else firstRounds corners fuel next

def reachFrom (edges : Array (Array Nat)) : Nat → List Nat → Nat → Array Nat → Array Nat
  | 0, _, _, found => found
  | _, [], _, found => found
  | fuel + 1, symbol :: pending, seen, found =>
    if seen.testBit symbol then reachFrom edges fuel pending seen found
    else reachFrom edges fuel ((edges.getD symbol #[]).toList ++ pending) (seen ||| bit symbol)
      (found.push symbol)

/-- What every rule contributes to the openings of a rule that can begin with it: at the corners
with a next symbol, the tokens that follow each rule ending there. -/
def contributions (corners : Array (Array Corner)) (units : Array (Array Nat))
    (firsts : Array Nat) (isRule : Nat → Bool) : Array (Array (Nat × Nat)) :=
  corners.map fun found =>
    let sets : Std.HashMap Nat Nat := found.foldl (fun sets corner =>
      match corner.next with
      | some next =>
        if isRule corner.symbol then
          (units.getD corner.symbol #[]).foldl (fun sets rule =>
            sets.insert rule (sets.getD rule 0 ||| firsts.getD next 0)) sets
        else sets
      | none => sets) {}
    sets.toArray

def openingsOf (reach : Array Nat) (units : Array Nat)
    (contributed : Array (Array (Nat × Nat))) (symbolCount : Nat) : Array Opening :=
  let follow := reach.foldl (fun follow rule =>
    (contributed.getD rule #[]).foldl (fun follow (other, set) =>
      follow.modify other (· ||| set)) follow) (Array.replicate symbolCount 0)
  reach.map fun rule => ⟨rule, follow.getD rule 0, units.contains rule⟩

/-- One round of the equations for the tokens that a rule can end with. -/
def lastRound (productions : Array NumberedProduction) (lasts : Array Nat) : Array Nat :=
  productions.foldl (fun lasts production =>
    match production.steps.back? with
    | some last => lasts.modify production.rule (· ||| lasts.getD last.symbol 0)
    | none => lasts) lasts

def lastRounds (productions : Array NumberedProduction) : Nat → Array Nat → Array Nat
  | 0, lasts => lasts
  | fuel + 1, lasts =>
    let next := lastRound productions lasts
    if next == lasts then lasts else lastRounds productions fuel next

/-- For each token, the tokens that can come right after it in some production. -/
def followingOf (productions : Array NumberedProduction) (firsts lasts : Array Nat)
    (tokenCount : Nat) : Array Nat :=
  -- the first tokens of what comes after each symbol that something comes after
  let after : Std.HashMap Nat Nat := productions.foldl (fun after production =>
    production.steps.zipIdx.foldl (fun after (numbered, place) =>
      match production.steps[place + 1]? with
      | some next =>
        after.insert numbered.symbol
          (after.getD numbered.symbol 0 ||| firsts.getD next.symbol 0)
      | none => after) after) {}
  after.fold (fun following symbol set =>
    (members tokenCount (lasts.getD symbol 0)).foldl (fun following token =>
      following.modify token (· ||| set)) following) (Array.replicate tokenCount 0)

/-- One round of: a rule has the fields of its steps and of the hidden rules among them. -/
def fieldRound (productions : Array NumberedProduction) (hidden : Nat → Bool)
    (fields : Array (List String)) : Array (List String) :=
  productions.foldl (fun fields production =>
    production.steps.foldl (fun fields numbered =>
      let inherited :=
        if hidden numbered.symbol && numbered.step.aliased.isNone then
          fields.getD numbered.symbol []
        else []
      (numbered.step.field.toList ++ inherited).foldl (fun fields name =>
        fields.modify production.rule fun names =>
          if names.contains name then names else name :: names) fields) fields) fields

def fieldRounds (productions : Array NumberedProduction) (hidden : Nat → Bool) :
    Nat → Array (List String) → Array (List String)
  | 0, fields => fields
  | fuel + 1, fields =>
    let next := fieldRound productions hidden fields
    if next == fields then fields else fieldRounds productions hidden fuel next

/-- What tells shapes apart: besides rule, size and weight, the aliases and fields of the steps and
the fields that hidden steps bring along. -/
structure ShapeKey where
  rule : Nat
  size : Nat
  dynamic : Int
  aliases : Array (Option (String × Bool))
  fields : Array (Option String)
  inherited : Array (List String)
deriving BEq, Hashable

def shapeKey (production : NumberedProduction) (inherited : Nat → List String) : ShapeKey :=
  { rule := production.rule
    size := production.steps.size
    dynamic := production.dynamic
    aliases := production.steps.map fun numbered =>
      numbered.step.aliased.map fun shown => (shown.name, shown.named)
    fields := production.steps.map (·.step.field)
    inherited := production.steps.map fun numbered => (inherited numbered.symbol).mergeSort }

def shapeOf (production : NumberedProduction) (inherited : Nat → List String) : NodeShape :=
  { rule := production.rule
    size := production.steps.size
    dynamic := production.dynamic
    aliases := production.steps.map (·.step.aliased)
    fields := production.steps.map (·.step.field)
    plain := production.steps.all fun numbered =>
      numbered.step.aliased.isNone && numbered.step.field.isNone &&
        (inherited numbered.symbol).isEmpty }

def ofGrammar (grammar : Grammar) : Tables :=
  let lexicon := Lexicon.ofGrammar grammar
  let entries := Production.withoutRepeats lexicon.rules
  let inlinedIndex (index : Nat) : Bool :=
    match entries[index]? with
    | some entry => entry.showing != .auxiliary && grammar.inlined.contains entry.name
    | none => false
  let written := entries.map fun entry => Production.ofRule entry.rule
  let defaults := DefaultAlias.ofProductions written inlinedIndex lexicon.extras
  let written := written.map (DefaultAlias.strip defaults)
  let bodies (index : Nat) : Option (Array Production) :=
    if inlinedIndex index then written[index]? else none
  let numbers := numbering lexicon
  let tokenCount := numbers.tokenCount
  let firstRule := tokenCount + 1
  -- the rule above the first one
  let startRule := firstRule + entries.size
  let symbolCount := startRule + 1
  let isRule (symbol : Nat) : Bool := firstRule ≤ symbol
  -- symbols
  let tokenInfos := lexicon.tokens.zipIdx.foldl (fun infos (entry, index) =>
    infos.set! (numbers.tokens.getD index 0)
      (symbolInfo entry.name entry.showing defaults[Sym.terminal index]?))
    (Array.replicate symbolCount default)
  let externalInfos := lexicon.externals.zipIdx.foldl (fun infos (entry, index) =>
    match entry.standsFor with
    | some _ => infos
    | none => infos.set! (numbers.externals.getD index 0)
      (symbolInfo entry.name entry.showing defaults[Sym.external index]?)) tokenInfos
  let symbols := entries.zipIdx.foldl (fun infos (entry, index) =>
    infos.set! (firstRule + index)
      (symbolInfo entry.name entry.showing defaults[Sym.rule index]?)) externalInfos
  let symbols := symbols.set! 0 ⟨"end", false, true, false, false⟩
  -- productions
  let productions := written.zipIdx.foldl (fun found (group, index) =>
    if inlinedIndex index then found
    else group.foldl (fun found production =>
      (Production.inline bodies 40 production).foldl (fun found production =>
        found.push
          { rule := firstRule + index
            steps := production.steps.map fun step => ⟨numbers.symbol step.sym, step⟩
            dynamic := production.dynamic }) found) found)
    (#[] : Array NumberedProduction)
  let startProduction : NumberedProduction :=
    { rule := startRule, steps := #[⟨firstRule, { sym := .rule 0 }⟩], dynamic := 0 }
  let hiddenRule (symbol : Nat) : Bool :=
    isRule symbol && (match entries[symbol - firstRule]? with
      | some entry => entry.showing == .hidden || entry.showing == .auxiliary
      | none => false)
  let fieldNames := fieldRounds productions hiddenRule 100 (Array.replicate symbolCount [])
  let inherited (symbol : Nat) : List String :=
    if hiddenRule symbol then fieldNames.getD symbol [] else []
  -- items
  let all := productions.push startProduction
  let names := markNames all
  let keyed := all.flatMap fun production =>
    (Array.range (production.steps.size + 1)).map fun place =>
      let inherits := (production.steps.extract 0 place).any fun numbered =>
        !(inherited numbered.symbol).isEmpty
      (itemKey names production place inherits, production, place)
  let distinct : Std.HashMap (List Nat) Nat := keyed.foldl
    (fun found entry => found.insert entry.1 0) {}
  let sorted := (distinct.toList.map (·.1)).mergeSort lexLess
  let itemNumbers : Std.HashMap (List Nat) Nat := sorted.zipIdx.foldl
    (fun found (key, index) => found.insert key index) {}
  let numbered := keyed.map fun entry => (itemNumbers.getD entry.1 0, entry.2.1, entry.2.2)
  let (shapes, shapeNumbers) := all.foldl (fun (shapes, numbers) production =>
    let key := shapeKey production inherited
    if (numbers : Std.HashMap ShapeKey Nat).contains key then (shapes, numbers)
    else ((shapes : Array NodeShape).push (shapeOf production inherited),
      numbers.insert key shapes.size)) (#[], {})
  let items := numbered.zipIdx.foldl (fun items ((number, production, place), position) =>
    let last := if place == 0 then none else production.steps[place - 1]?
    let advanced := if place < production.steps.size then
        match numbered[position + 1]? with
        | some entry => entry.1
        | none => 0
      else 0
    items.set! number
      { rule := production.rule, place, size := production.steps.size
        next := production.steps[place]?.map (·.symbol)
        afterNext := production.steps[place + 1]?.map (·.symbol)
        advanced
        precedence := (last.map (·.step.precedence)).getD .unset
        associativity := last.bind (·.step.associativity)
        shape := shapeNumbers.getD (shapeKey production inherited) 0 })
    (Array.replicate sorted.length default)
  let startItem := match numbered[numbered.size - 2]? with
    | some entry => entry.1
    | none => 0
  let startsWith := numbered.zipIdx.foldl (fun table ((number, production, place), _) =>
    if place == 1 then
      match production.steps[0]? with
      | some first => table.modify first.symbol fun groups =>
        match groups.findIdx? (fun group => group.1 == production.rule) with
        | some index => groups.modify index fun group =>
          if group.2.contains number then group else (group.1, group.2.push number)
        | none => groups.push (production.rule, #[number])
      | none => table
    else table) (Array.replicate symbolCount (#[] : Array (Nat × Array Nat)))
  -- sets
  let corners := cornersOf productions symbolCount
  let baseFirsts := (Array.range symbolCount).map fun symbol =>
    if symbol < tokenCount then bit symbol else 0
  let firsts := firstRounds corners symbolCount baseFirsts
  let ruleCorners := corners.map fun found =>
    (found.filter fun corner => isRule corner.symbol).map (·.symbol)
  let unitCorners := corners.map fun found =>
    (found.filter fun corner => isRule corner.symbol && corner.next.isNone).map (·.symbol)
  let edgeFuel := 4 * symbolCount * (productions.size + 1)
  let units := (Array.range symbolCount).map fun symbol =>
    if isRule symbol then reachFrom unitCorners edgeFuel [symbol] 0 #[] else #[]
  let contributed := contributions corners units firsts isRule
  let openings := (Array.range symbolCount).map fun symbol =>
    if isRule symbol then
      openingsOf (reachFrom ruleCorners edgeFuel [symbol] 0 #[]) (units.getD symbol #[])
        contributed symbolCount
    else #[]
  -- tokens
  let extraTokens := lexicon.extras.foldl (fun set sym =>
    match sym with
    | .rule _ => set
    | token => set ||| bit (numbers.symbol token)) 0
  let extraRules := lexicon.extras.filterMap fun sym =>
    match sym with
    | .rule index => some (firstRule + index)
    | _ => none
  let everAliased := productions.foldl (fun found production =>
    production.steps.foldl (fun found numbered =>
      if numbered.step.aliased.isSome then found.set! numbered.symbol true else found) found)
    (Array.replicate symbolCount false)
  let skippable := (Array.range symbolCount).map fun symbol =>
    hiddenRule symbol && !everAliased.getD symbol false &&
      !((symbols[symbol]?.map (·.aliased)).getD false) && !extraRules.contains symbol &&
      !((symbols[symbol]?.map fun info => grammar.supertypes.contains info.name).getD false)
  let separators := lexicon.separators.foldl (fun set pattern =>
    match pattern with
    | .chars other => set ∪ other
    | _ => set) CharSet.empty
  let noToken : Token := { pattern := .chars .empty }
  let tokens := lexicon.tokens.zipIdx.foldl (fun tokens (entry, index) =>
    tokens.set! (numbers.tokens.getD index 0) entry.token)
    (Array.replicate (lexicon.tokens.size + 1) noToken)
  let ranks := numbers.tokens.zipIdx.foldl (fun ranks (symbol, index) => ranks.set! symbol index)
    (Array.replicate (lexicon.tokens.size + 1) 0)
  let lexical := numbers.tokens.foldl (fun set symbol => set ||| bit symbol) 0
  let externalOnly := (lexicon.externals.zip numbers.externals).foldl (fun set (entry, symbol) =>
    if entry.standsFor.isNone then set ||| bit symbol else set) 0
  let lasts := lastRounds productions symbolCount baseFirsts
  let following := (followingOf productions firsts lasts tokenCount).map (· ||| extraTokens)
  let following := (members tokenCount extraTokens).foldl (fun following token =>
    following.set! token (lexical ||| following.getD token 0)) following
  { symbols, tokenCount
    lexicon := TokenAutomaton.ofTokens tokens ranks separators
    lexical
    word := lexicon.word.map fun index => numbers.tokens.getD index 0
    externals := numbers.externals
    externalOnly, following, extraTokens
    extraRules := extraRules.toArray
    items, shapes, startItem, startsWith, firsts, openings
    order := (members tokenCount externalOnly).toArray ++ numbers.tokens ++
      (Array.range symbolCount).filter isRule
    skippable
    orders := grammar.orders }

end Tables

end SourceIndex
