import SourceIndex.Parsing.Merging
import SourceIndex.Parsing.TokenUse

set_option autoImplicit false

namespace SourceIndex

inductive Action where
  /-- `repetition` marks a shift that only regroups a repetition. -/
  | shift (state : Nat) (repetition : Bool)
  | shiftExtra
  | reduce (shape : NodeShape)
  | accept
  | recover
deriving Inhabited

structure ParseState where
  /-- What to do with each token. -/
  actions : Array (List Action) := #[]
  /-- Where each rule leads, counted from the first rule; state 0 if it cannot come here. Rules that
may stand anywhere are left out. -/
  gotos : Array Nat := #[]
  /-- The tokens that there are actions for. -/
  valid : Nat := 0
  /-- The lexical tokens to look for, keywords as words; bit 0 is the end of the text. -/
  wanted : Nat := 0
  /-- All items are complete and end an extra rule. -/
  endsExtra : Bool := false
deriving Inhabited

structure ParseTable where
  tables : Tables
  rivals : Rivals
  states : Array ParseState
  keywords : Std.HashMap String Nat
  /-- The tokens that the scanner knows. -/
  scanned : Nat

namespace ParseTable

def errorState : Nat := 0

def startState : Nat := 1

/-- The number kept free for the token that ends an extra rule. -/
def endOfExtra (tables : Tables) : Nat := tables.tokenCount

def firstRule (tables : Tables) : Nat := tables.tokenCount + 1

/-- What a state does with a token, where `target` gives the state that a move leads to. -/
def actionsOf (tables : Tables) (extraStarts : List (Nat × Nat)) (target : Nat → Nat)
    (token : Nat) (response : Response) : List Action :=
  let reductions := response.reductions.map fun number =>
    let shape := tables.shapes.getD number default
    if shape.rule == tables.symbols.size - 1 then Action.accept else .reduce shape
  match response.shift with
  | some repetition => reductions ++ [.shift (target token) repetition]
  | none =>
    if !reductions.isEmpty then reductions
    else match extraStarts.find? (fun start => start.1 == token) with
      | some start => [.shift start.2 false]
      | none => if tables.extraTokens.testBit token then [.shiftExtra] else []

/-- The state that stands for a group. Where several states of the group know a token they agree on
it, so the first that does is asked. -/
def stateOf (rules : MergeRules) (groupOf : Array Nat) (group : Array Nat) : ParseState :=
  let tables := rules.tables
  let first := rules.graph.states.getD (group.getD 0 0) default
  let core := rules.graph.cores.getD first.core default
  let group0 (state : Nat) : Nat := groupOf.getD state 0
  let valid := group.foldl (fun set state => set ||| (rules.profiles.getD state default).valid) 0
  let extraStarts := rules.graph.extraStarts.map fun start => (start.1, group0 start.2)
  let targets := core.moves.zip first.targets
  let shifts : Array Nat := targets.foldl (fun shifts (move, target) =>
    if move.symbol < tables.tokenCount then shifts.set! move.symbol (group0 target) else shifts)
    (Array.replicate tables.tokenCount 0)
  let gotos := targets.foldl (fun gotos (move, target) =>
    if tables.tokenCount < move.symbol then
      gotos.set! (move.symbol - firstRule tables) (group0 target)
    else gotos) (Array.replicate (tables.symbols.size - firstRule tables) 0)
  let responseTo (token : Nat) : Response :=
    match group.find? fun state => (rules.profiles.getD state default).valid.testBit token with
    | some state =>
      Resolution.response tables core (rules.graph.states.getD state default).follow token
    | none => {}
  let actionsAt (token : Nat) : List Action :=
    actionsOf tables extraStarts (shifts.getD · 0) token (responseTo token)
  let endsExtra := valid.testBit (endOfExtra tables)
  let actions := (Array.range tables.tokenCount).map fun token =>
    if endsExtra then if token == 0 then actionsAt (endOfExtra tables) else []
    else if valid.testBit token then actionsAt token else []
  { actions, gotos, valid, endsExtra }

/-- The state for errors recovers at all tokens that are looked for there. -/
def withRecovery (recovery : Nat) (state : ParseState) : ParseState :=
  { state with
    valid := state.valid ||| recovery
    actions := state.actions.mapIdx fun token actions =>
      if actions.isEmpty && recovery.testBit token then [.recover] else actions }

def mapAction (change : Nat → Nat) : Action → Action
  | .shift state repetition => .shift (change state) repetition
  | action => action

/-- Changes the numbers of the states that a state leads to. -/
def redirect (change : Nat → Nat) (state : ParseState) : ParseState :=
  { state with
    actions := state.actions.map fun actions => actions.map (mapAction change)
    gotos := state.gotos.map fun target => if target == 0 then 0 else change target }

/-- The rule of which all that a state can do is to reduce a single child without trace in the
tree, if so. -/
def skippableUnit? (tables : Tables) (state : ParseState) : Option Nat :=
  let rules := state.actions.foldl (fun (found : Option (List Nat)) actions =>
    actions.foldl (fun found action =>
      match found, action with
      | some rules, .shiftExtra => some rules
      | some rules, .reduce shape =>
        if shape.size == 1 && shape.plain && shape.dynamic == 0 &&
            tables.skippable.getD shape.rule false then
          some (rules.insert shape.rule)
        else none
      | _, _ => none) found) (some [])
  match rules with
  | some [rule] => some rule
  | _ => none

/-- Follows the rules reduced without trace, from the state `origin`. -/
def skipUnits (tables : Tables) (units : Array (Option Nat)) (origin : ParseState) :
    Nat → Nat → Nat
  | 0, target => target
  | fuel + 1, target =>
    match units.getD target none with
    | none => target
    | some rule =>
      match origin.gotos.getD (rule - firstRule tables) 0 with
      | 0 => target
      | next => skipUnits tables units origin fuel next

/-- Lets every state lead past those that only reduce a single child without trace. -/
def withoutUnits (tables : Tables) (states : Array ParseState) : Array ParseState :=
  let units := states.map (skippableUnit? tables)
  states.map fun state => redirect (skipUnits tables units state 100) state

def references (state : ParseState) : Array Nat :=
  state.actions.foldl (fun found actions =>
    actions.foldl (fun found action =>
      match action with
      | .shift target _ => found.push target
      | _ => found) found) state.gotos

def symbolCount (state : ParseState) : Nat :=
  let tokens := state.actions.foldl (fun count actions =>
    if actions.isEmpty then count else count + 1) 0
  state.gotos.foldl (fun count target => if target == 0 then count else count + 1) tokens

/-- Leaves out the states to which no state leads, and puts those that know many symbols first. -/
def sorted (states : Array ParseState) : Array ParseState :=
  let used := states.foldl (fun used state =>
    (references state).foldl (fun used target => used.set! target true) used)
    (((Array.replicate states.size false).set! errorState true).set! startState true)
  let rest := (List.range states.size).filter fun number =>
    startState < number && used.getD number false
  let counts := states.map symbolCount
  let order := errorState :: startState ::
    rest.mergeSort fun a b => counts.getD b 0 ≤ counts.getD a 0
  let numbers := order.zipIdx.foldl (fun numbers (number, place) =>
    numbers.set! number place) (Array.replicate states.size 0)
  (order.map fun number =>
    redirect (fun target => numbers.getD target 0) (states.getD number default)).toArray

/-- For each token, the tokens that overlap it in either direction. -/
def mutualOverlaps (use : TokenUse) : Array Nat :=
  let count := use.tables.tokenCount
  (List.range count).foldl (fun found token =>
    let others := use.rivals.overlaps token
    (Tables.members count others).foldl (fun found other =>
      found.modify other (· ||| Tables.bit token)) (found.modify token (· ||| others)))
    (Array.replicate count 0)

/-- Tokens to look for together, and the tokens that could not be told apart from them. -/
structure Lookout where
  tokens : Nat
  barred : Nat
deriving Inhabited

/-- A token is barred if it hinders one of `tokens` or ends before it, or if it overlaps one of them
beside which it is never valid. -/
def Lookout.ofTokens (use : TokenUse) (overlaps : Array Nat) (tokens : Nat) : Lookout :=
  let others := tokens &&& use.tables.lexical
  { tokens
    barred := use.lexicalTokens.foldl (fun set token =>
      let hindered := use.rivals.hinders token ||| use.rivals.endsFirst.getD token 0
      let strangers := others ^^^ (others &&& use.beside.getD token 0)
      if hindered &&& others != 0 || overlaps.getD token 0 &&& strangers != 0 then
        set ||| Tables.bit token
      else set) 0 }

def Lookout.fits (left right : Lookout) : Bool :=
  let both := left.tokens &&& right.tokens
  (left.tokens ^^^ both) &&& right.barred == 0 && (right.tokens ^^^ both) &&& left.barred == 0

/-- Unites the sets of tokens that states look for, as far as the tokens can be told apart. Gives
the united sets, and which of them each given set went to. -/
def uniteSets (use : TokenUse) (sets : Array Nat) : Array Lookout × Array Nat :=
  let overlaps := mutualOverlaps use
  let known : Std.HashMap Nat Lookout := sets.foldl (fun known set =>
    if known.contains set then known
    else known.insert set (Lookout.ofTokens use overlaps set)) {}
  sets.foldl (fun (united, places) set =>
    let lookout := known.getD set default
    match united.findIdx? (Lookout.fits lookout) with
    | some place =>
      (united.modify place fun (other : Lookout) =>
        let tokens := other.tokens ||| set
        if tokens == other.tokens then other else Lookout.ofTokens use overlaps tokens,
        places.push place)
    | none => (united.push lookout, places.push united.size)) (#[], #[])

/-- The lexical tokens of a state, with keywords as words. -/
def lookedFor (tables : Tables) (keywords : Nat) (state : ParseState) : Nat :=
  if state.endsExtra then 0
  else
    let own := state.valid &&& (tables.lexical ||| 1)
    match tables.word with
    | none => own
    | some word =>
      let found := own &&& keywords
      if found == 0 then own else (own ^^^ found) ||| Tables.bit word

def withWanted (use : TokenUse) (keywords : Nat) (states : Array ParseState) :
    Array ParseState :=
  let (united, places) := uniteSets use (states.map (lookedFor use.tables keywords))
  (states.zip places).map fun (state, place) =>
    { state with wanted := (united.getD place default).tokens }

def ofTables (tables : Tables) : ParseTable :=
  let rivals := Rivals.ofLexicon tables.lexicon tables.following
  let graph := StateGraph.ofTables tables
  let valid := graph.states.map (MergeRules.validTokens tables graph)
  let use := TokenUse.ofValid tables rivals valid
  let keywords := use.keywords
  let keywordSet := keywords.foldl (fun set token => set ||| Tables.bit token) 0
  let rules := MergeRules.ofGraph tables graph rivals keywordSet valid
  let partition := rules.partition
  let merged := partition.groups.map (stateOf rules partition.groupOf)
  let merged := merged.modify errorState (withRecovery (use.recovery keywords))
  let states := withWanted use keywordSet (sorted (withoutUnits tables merged))
  { tables, rivals, states
    scanned := tables.externals.foldl (fun set symbol => set ||| Tables.bit symbol) 0
    keywords := keywords.foldl (fun found token =>
      match (tables.lexicon.tokens[token]?).bind (·.spelling?) with
      | some text => found.insert text token
      | none => found) {} }

def state (table : ParseTable) (number : Nat) : ParseState := table.states.getD number default

/-- What to do with a token in a state. Where an extra rule ends, the end of the text stands for
any token. -/
def actions (table : ParseTable) (number token : Nat) : List Action :=
  (table.state number).actions.getD token []

/-- The state that meeting a token or a completed rule leads to; state 0 if it cannot come. -/
def nextState (table : ParseTable) (number symbol : Nat) : Nat :=
  if symbol < table.tables.tokenCount then
    match (table.actions number symbol).getLast? with
    | some (.shift next _) => next
    | some .shiftExtra => number
    | _ => errorState
  else if table.tables.extraRules.contains symbol then
    if (table.state number).endsExtra then errorState else number
  else (table.state number).gotos.getD (symbol - firstRule table.tables) errorState

def scannable (table : ParseTable) (number : Nat) : Nat :=
  (table.state number).valid &&& table.scanned

def looksAlike (table : ParseTable) (number other : Nat) : Bool :=
  (table.state number).wanted == (table.state other).wanted &&
    table.scannable number == table.scannable other

/-- Whether none of the tokens valid in a state overlaps `token`. -/
def isDistinct (table : ParseTable) (number token : Nat) : Bool :=
  !(table.tables.lexical.testBit token) ||
    (Tables.members table.tables.tokenCount
      ((table.state number).valid &&& table.tables.lexical)).all fun other =>
        !(table.rivals.overlaps other).testBit token

end ParseTable

end SourceIndex
