import SourceIndex.Grammar.Tables

/-
The states of a parser. A state is a set of items, each with the tokens that may follow it;
meeting a symbol leads from one state to another. States with the same items share a core, which
knows where each symbol leads and how the tokens that follow the items there are found.
-/

set_option autoImplicit false

namespace SourceIndex

/-- A move over a symbol. The items of the core it leads to are followed by the tokens of `fixed`,
and by those that follow the items here at the positions of `inherited`. -/
structure Move where
  symbol : Nat
  core : Nat
  fixed : Array Nat
  inherited : Array (List Nat)
  /-- Nothing is inherited. -/
  isFixed : Bool
deriving Inhabited

structure Core where
  items : Array Nat
  moves : Array Move := #[]
  /-- The symbols of the moves. -/
  symbols : Array Nat := #[]
  /-- The tokens that there is a move over. -/
  shiftTokens : Nat := 0
  /-- The positions of the items that are complete. -/
  complete : List Nat := []
deriving Inhabited

/-- A core, the tokens that follow each of its items, and the state that each move leads to. -/
structure GraphState where
  core : Nat
  follow : Array Nat
  targets : Array Nat := #[]
deriving Inhabited

/-- What tells states apart. -/
structure StateKey where
  core : Nat
  follow : Array Nat
deriving BEq

namespace StateKey

def modulus : Nat := 2305843009213693951

instance : Hashable StateKey where
  hash key := key.follow.foldl (fun value set => mixHash value (hash (set % modulus)))
    (hash key.core)

end StateKey

structure StateGraph where
  cores : Array Core
  states : Array GraphState
  /-- Where the rules that may stand anywhere begin: first token and state. -/
  extraStarts : List (Nat × Nat)

namespace StateGraph

/-- An item to which a move leads, before equal ones are united. -/
structure Arrival where
  item : Nat
  fixed : Nat
  inherited : List Nat

def insertArrival (arrival : Arrival) : List Arrival → List Arrival
  | [] => [arrival]
  | other :: rest =>
    if arrival.item < other.item then arrival :: other :: rest
    else if arrival.item == other.item then
      ⟨other.item, other.fixed ||| arrival.fixed,
        arrival.inherited.foldl (fun all position => all.insert position) other.inherited⟩ :: rest
    else other :: insertArrival arrival rest

/-- A rule that may begin here: the tokens that follow it always, and the positions of the items
whose tokens follow it too. -/
structure Beginning where
  fixed : Nat := 0
  inherited : List Nat := []

def beginnings (tables : Tables) (items : Array Nat) : Array (Option Beginning) :=
  items.zipIdx.foldl (fun found (number, position) =>
    let item := tables.items.getD number default
    match item.next with
    | none => found
    | some next =>
      let (after, inherited) := match item.afterNext with
        | some symbol => (tables.firsts.getD symbol 0, [])
        | none => (0, [position])
      (tables.openings.getD next #[]).foldl (fun found opening =>
        found.modify opening.rule fun known =>
          let known := known.getD {}
          if opening.atEnd then
            some ⟨known.fixed ||| opening.follow ||| after,
              inherited.foldl (fun all position => all.insert position) known.inherited⟩
          else some ⟨known.fixed ||| opening.follow, known.inherited⟩) found)
    (Array.replicate tables.symbols.size none)

def arrivals (tables : Tables) (items : Array Nat) (begun : Array (Option Beginning))
    (symbol : Nat) : List Arrival :=
  let kept := items.zipIdx.foldl (fun found (number, position) =>
    let item := tables.items.getD number default
    if item.next == some symbol then insertArrival ⟨item.advanced, 0, [position]⟩ found
    else found) []
  (tables.startsWith.getD symbol #[]).foldl (fun found (rule, advanced) =>
    match begun.getD rule none with
    | some beginning => advanced.foldl (fun found number =>
        insertArrival ⟨number, beginning.fixed, beginning.inherited⟩ found) found
    | none => found) kept

structure CoreTable where
  cores : Array Core := #[]
  numbers : Std.HashMap (Array Nat) Nat := {}

def CoreTable.intern (table : CoreTable) (items : Array Nat) : Nat × CoreTable :=
  match table.numbers[items]? with
  | some number => (number, table)
  | none =>
    (table.cores.size,
      { cores := table.cores.push { items }
        numbers := table.numbers.insert items table.cores.size })

def CoreTable.expand (tables : Tables) (table : CoreTable) (number : Nat) : CoreTable :=
  let items := (table.cores.getD number default).items
  let begun := beginnings tables items
  let (moves, table) := tables.order.foldl (fun (moves, table) symbol =>
    let found := arrivals tables items begun symbol
    if found.isEmpty then (moves, table)
    else
      let (core, table) := CoreTable.intern table (found.map (·.item)).toArray
      ((moves : Array Move).push
        { symbol, core, fixed := (found.map (·.fixed)).toArray
          inherited := (found.map (·.inherited)).toArray
          isFixed := found.all (·.inherited.isEmpty) }, table)) (#[], table)
  let shiftTokens := moves.foldl (fun set move =>
    if move.symbol < tables.tokenCount then set ||| Tables.bit move.symbol else set) 0
  let complete := (List.range items.size).filter fun position =>
    match items[position]? with
    | some item => (tables.items.getD item default).next.isNone
    | none => false
  { table with
    cores := table.cores.modify number fun core =>
      { core with moves, symbols := moves.map (·.symbol), shiftTokens, complete } }

def expandFrom (tables : Tables) : Nat → Nat → CoreTable → CoreTable
  | 0, _, table => table
  | fuel + 1, number, table =>
    if number < table.cores.size then
      expandFrom tables fuel (number + 1) (CoreTable.expand tables table number)
    else table

structure Growth where
  states : Array GraphState := #[]
  numbers : Std.HashMap StateKey Nat := {}
  /-- The first state of each core that has one. -/
  firsts : Array (Option Nat)

def Growth.intern (growth : Growth) (core : Nat) (follow : Array Nat) : Nat × Growth :=
  match growth.numbers[(⟨core, follow⟩ : StateKey)]? with
  | some number => (number, growth)
  | none =>
    let number := growth.states.size
    (number,
      { states := growth.states.push { core, follow }
        numbers := growth.numbers.insert ⟨core, follow⟩ number
        firsts := growth.firsts.modify core (· <|> some number) })

/-- The tokens that follow the items to which a move leads. -/
def Move.follow (move : Move) (follow : Array Nat) : Array Nat :=
  move.fixed.zipWith (fun fixed positions =>
    positions.foldl (fun set position => set ||| follow.getD position 0) fixed) move.inherited

/-- Works out where the moves of one state lead. Moves that inherit nothing lead to the same state
from all states of a core. -/
def Growth.expand (cores : Array Core) (growth : Growth) (number : Nat) : Growth :=
  let state := growth.states.getD number default
  let known := match growth.firsts.getD state.core none with
    | some first => (growth.states.getD first default).targets
    | none => #[]
  let (targets, growth) := (cores.getD state.core default).moves.foldl
    (fun (targets, growth) move =>
      let target? := if move.isFixed then known[(targets : Array Nat).size]? else none
      match target? with
      | some target => (targets.push target, growth)
      | none =>
        let (target, growth) := Growth.intern growth move.core (Move.follow move state.follow)
        (targets.push target, growth)) (#[], growth)
  { growth with
    states := growth.states.modify number fun state => { state with targets } }

def growFrom (cores : Array Core) : Nat → Nat → Growth → Growth
  | 0, _, growth => growth
  | fuel + 1, number, growth =>
    if number < growth.states.size then
      growFrom cores fuel (number + 1) (Growth.expand cores growth number)
    else growth

/-- The items that an extra rule is in after each of its possible first tokens. -/
def extraItems (tables : Tables) : List (Nat × Array Nat) :=
  tables.order.toList.filterMap fun token =>
    if token < tables.tokenCount then
      let items := (tables.startsWith.getD token #[]).foldl (fun items (rule, numbers) =>
        if tables.extraRules.contains rule then items ++ numbers else items) #[]
      if items.isEmpty then none else some (token, (items.toList.mergeSort).toArray)
    else none

/-- The items before anything is read. Only the first rule may be empty; its empty production is
then complete at once. -/
def startItems (tables : Tables) : Array Nat :=
  let empty := tables.items.toList.findIdx? fun item =>
    item.rule == tables.tokenCount + 1 && item.size == 0
  ((tables.startItem :: empty.toList).mergeSort).toArray

/-- More states than a grammar of a programming language has. -/
def limit : Nat := 1000000

/-- State 0 is for errors, and state 1 for the start of a text. -/
def ofTables (tables : Tables) : StateGraph :=
  let extras := extraItems tables
  let seeds := (#[], 0) :: (startItems tables, 1) ::
    extras.map fun (_, items) => (items, Tables.bit tables.tokenCount)
  let table := seeds.foldl (fun table (items, _) => (CoreTable.intern table items).2)
    ({} : CoreTable)
  let table := expandFrom tables limit 0 table
  let growth := seeds.foldl (fun growth (items, set) =>
    let (core, _) := CoreTable.intern table items
    (Growth.intern growth core (Array.replicate items.size set)).2)
    ({ firsts := Array.replicate table.cores.size none } : Growth)
  let extraStarts := extras.zipIdx.map fun ((token, _), index) => (token, index + 2)
  let growth := growFrom table.cores limit 0 growth
  { cores := table.cores, states := growth.states, extraStarts }

end StateGraph

end SourceIndex
