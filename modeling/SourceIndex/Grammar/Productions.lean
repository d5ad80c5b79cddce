import SourceIndex.Grammar.Lexicon

set_option autoImplicit false

namespace SourceIndex

/-- One symbol of a production, with the marks that bear on it. -/
structure Step where
  sym : Sym
  precedence : Precedence := .unset
  associativity : Option Associativity := none
  aliased : Option Alias := none
  field : Option String := none
deriving BEq, Inhabited

structure Production where
  steps : Array Step
  dynamic : Int := 0
deriving BEq, Inhabited

namespace Production

/-- The larger of two weights by absolute value; the first on a tie. -/
def heavier (a b : Int) : Int := if b.natAbs > a.natAbs then b else a

/-- Auxiliary symbols made so far: the content of each, and the rule of each. -/
structure Repeats where
  first : Nat
  contents : Array (Rule Sym) := #[]
  entries : Array RuleEntry := #[]

/-- One or more of `content`, by splitting in two: the symbol twice, or the content once. -/
def halves (index : Nat) (content : Rule Sym) : Rule Sym :=
  .choice [.seq [.leaf (.rule index), .leaf (.rule index)], content]

mutual
/-- Replaces each repetition by an auxiliary symbol; equal contents share one. -/
def spreadRepeats (name : String) : Rule Sym → Repeats → Rule Sym × Repeats
  | .blank, repeats => (.blank, repeats)
  | .leaf sym, repeats => (.leaf sym, repeats)
  | .seq rules, repeats =>
    let (rules, repeats) := spreadRepeatsAll name rules repeats
    (.seq rules, repeats)
  | .choice rules, repeats =>
    let (rules, repeats) := spreadRepeatsAll name rules repeats
    (.choice rules, repeats)
  | .marked marks rule, repeats =>
    let (rule, repeats) := spreadRepeats name rule repeats
    (.marked marks rule, repeats)
  | .many1 rule, repeats =>
    let (content, repeats) := spreadRepeats name rule repeats
    match repeats.contents.findIdx? (· == content) with
    | some place => (.leaf (.rule (repeats.first + place)), repeats)
    | none =>
      let index := repeats.first + repeats.contents.size
      (.leaf (.rule index),
        { repeats with
          contents := repeats.contents.push content
          entries := repeats.entries.push ⟨name, .auxiliary, halves index content⟩ })

def spreadRepeatsAll (name : String) : List (Rule Sym) → Repeats → List (Rule Sym) × Repeats
  | [], repeats => ([], repeats)
  | rule :: rest, repeats =>
    let (rule, repeats) := spreadRepeats name rule repeats
    let (rest, repeats) := spreadRepeatsAll name rest repeats
    (rule :: rest, repeats)
end

/-- The rules without repetitions. A hidden rule that is a repetition becomes auxiliary itself. -/
def withoutRepeats (rules : Array RuleEntry) : Array RuleEntry :=
  let (spread, repeats) := rules.zipIdx.foldl
    (fun (done, repeats) (entry, index) =>
      match entry.rule, entry.showing with
      | .many1 content, .hidden =>
        let (content, repeats) := spreadRepeats entry.name content repeats
        (done.push { entry with showing := .auxiliary, rule := halves index content }, repeats)
      | rule, _ =>
        let (rule, repeats) := spreadRepeats entry.name rule repeats
        (done.push { entry with rule }, repeats))
    ((#[] : Array RuleEntry), { first := rules.size : Repeats })
  spread ++ repeats.entries

mutual
def alternatives : Rule Sym → List (Rule Sym)
  | .seq rules => alternativesInOrder [.blank] rules
  | .choice rules => alternativesAll rules
  | .marked marks rule => (alternatives rule).map (.marked marks)
  | rule => [rule]

def alternativesInOrder : List (Rule Sym) → List (Rule Sym) → List (Rule Sym)
  | heads, [] => heads
  | heads, rule :: rest =>
    let tails := alternatives rule
    alternativesInOrder (heads.flatMap fun head => tails.map fun tail => .seq [head, tail]) rest

def alternativesAll : List (Rule Sym) → List (Rule Sym)
  | [] => []
  | rule :: rest => alternatives rule ++ alternativesAll rest
end

/-- The marks in force at a place of a rule. -/
structure Context where
  precedence : Precedence := .unset
  associativity : Option Associativity := none
  aliased : Option Alias := none
  field : Option String := none

/-- Gives the last step the precedence and associativity in force around a marked part that ended
before the end of the production. -/
def resetLast (production : Production) (marks : Marks) (outer : Context) : Production :=
  { production with
    steps := production.steps.modify (production.steps.size - 1) fun step =>
      { step with
        precedence := if marks.precedence == .unset then step.precedence else outer.precedence
        associativity :=
          if marks.associativity.isNone then step.associativity else outer.associativity } }

mutual
/-- Appends the steps of a choice-free rule, and tells whether there were any. -/
def append (atEnd : Bool) (context : Context) : Rule Sym → Production → Production × Bool
  | .leaf sym, production =>
    ({ production with
        steps := production.steps.push
          ⟨sym, context.precedence, context.associativity, context.aliased, context.field⟩ },
      true)
  | .seq rules, production => appendAll atEnd context rules production
  | .marked marks rule, production =>
    let inner : Context :=
      { precedence := if marks.precedence == .unset then context.precedence else marks.precedence
        associativity := marks.associativity <|> context.associativity
        aliased := marks.aliased <|> context.aliased
        field := marks.field <|> context.field }
    let production := { production with dynamic := heavier production.dynamic marks.dynamic }
    let (production, pushed) := append atEnd inner rule production
    if pushed && !atEnd then (resetLast production marks context, pushed)
    else (production, pushed)
  | _, production => (production, false)

def appendAll (atEnd : Bool) (context : Context) :
    List (Rule Sym) → Production → Production × Bool
  | [], production => (production, false)
  | rule :: rest, production =>
    let (production, first) := append (atEnd && rest.isEmpty) context rule production
    let (production, others) := appendAll atEnd context rest production
    (production, first || others)
end

def ofRule (rule : Rule Sym) : Array Production :=
  (alternatives rule).foldl
    (fun found choice =>
      let production := (append true {} choice ⟨#[], 0⟩).1
      if found.contains production then found else found.push production)
    #[]

/-- Puts the steps of `body` in the place of step `place`. -/
def splice (production : Production) (place : Nat) (removed : Step) (body : Production) :
    Production :=
  let inserted := body.steps.map fun step =>
    { step with
      aliased := removed.aliased <|> step.aliased
      field := removed.field <|> step.field }
  let inserted := inserted.modify (inserted.size - 1) fun step =>
    { step with
      precedence := if step.precedence == .unset then removed.precedence else step.precedence
      associativity := step.associativity <|> removed.associativity }
  { steps := production.steps.extract 0 place ++ inserted ++
      production.steps.extract (place + 1) production.steps.size
    dynamic := heavier production.dynamic body.dynamic }

/-- Replaces inlined symbols from the left, at most `fuel` times along each branch. -/
def inline (bodies : Nat → Option (Array Production)) : Nat → Production → List Production
  | 0, production => [production]
  | fuel + 1, production =>
    let found := production.steps.zipIdx.findSome? fun (step, place) =>
      match step.sym with
      | .rule index => (bodies index).map fun body => (place, step, body)
      | _ => none
    match found with
    | none => [production]
    | some (place, removed, body) =>
      body.toList.flatMap fun choice => inline bodies fuel (splice production place removed choice)

end Production

namespace DefaultAlias

/-- How a symbol is used: with which aliases, how often, and whether ever without one. -/
structure Usage where
  aliases : Array (Alias × Nat) := #[]
  plain : Bool := false
deriving Inhabited

def Usage.count (usage : Usage) : Option Alias → Usage
  | none => { usage with plain := true }
  | some name =>
    match usage.aliases.findIdx? (fun entry => entry.1 == name) with
    | some place =>
      { usage with aliases := usage.aliases.modify place fun entry => (entry.1, entry.2 + 1) }
    | none => { usage with aliases := usage.aliases.push (name, 1) }

/-- The most frequent alias, the earliest of them on a tie; none if the symbol also appears under
its own name. -/
def Usage.default? (usage : Usage) : Option Alias :=
  if usage.plain then none
  else (usage.aliases.foldl
    (fun (best : Option (Alias × Nat)) entry =>
      match best with
      | some (_, count) => if entry.2 > count then some entry else best
      | none => some entry)
    none).map (·.1)

def ofProductions (productions : Array (Array Production)) (inlined : Nat → Bool)
    (extras : List Sym) : Std.HashMap Sym Alias :=
  let usages : Std.HashMap Sym Usage := productions.foldl (fun usages group =>
    group.foldl (fun usages production =>
      production.steps.foldl (fun usages step =>
        match step.sym with
        | .rule index =>
          if inlined index then usages
          else usages.insert step.sym ((usages.getD step.sym {}).count step.aliased)
        | _ => usages.insert step.sym ((usages.getD step.sym {}).count step.aliased))
        usages) usages) {}
  let usages := extras.foldl
    (fun usages sym => usages.insert sym { usages.getD sym {} with plain := true }) usages
  usages.fold (fun found sym usage =>
    match usage.default? with
    | some name => found.insert sym name
    | none => found) {}

/-- Takes away aliases that the symbol's default makes redundant, unless another production of the
same rule needs the alias at that place for a symbol with a different default. -/
def strip (defaults : Std.HashMap Sym Alias) (group : Array Production) : Array Production :=
  group.zipIdx.map fun (production, index) =>
    { production with
      steps := production.steps.zipIdx.map fun (step, place) =>
        if step.aliased.isSome && step.aliased == defaults[step.sym]? then
          let needed := group.zipIdx.any fun (other, otherIndex) =>
            otherIndex != index &&
              match other.steps[place]? with
              | some otherStep =>
                otherStep.aliased == step.aliased &&
                  defaults[otherStep.sym]? != step.aliased
              | none => false
          if needed then step else { step with aliased := none }
        else step }

end DefaultAlias

end SourceIndex
