import SourceIndex.Parsing.StateGraph

set_option autoImplicit false

namespace SourceIndex

/-- What a state does with a token of its own: the shapes to reduce to, and whether to move over
the token. A move marked `true` only regroups a repetition. -/
structure Response where
  reductions : List Nat := []
  shift : Option Bool := none
deriving BEq, DecidableEq, Inhabited

namespace Resolution

def rankMatches (tables : Tables) (precedence : Precedence) (rules : List Nat) : Rank → Bool
  | .precedence name => precedence == .named name
  | .rule name => rules.any fun rule => ((tables.symbols[rule]?.map (·.name)).getD "") == name

/-- Which of two sides a list ranks first, if it ranks both. -/
def orderIn (tables : Tables) (left right : Precedence) (leftRules rightRules : List Nat) :
    Bool → Bool → List Rank → Option Ordering
  | _, _, [] => none
  | sawLeft, sawRight, rank :: rest =>
    if rankMatches tables left leftRules rank then
      if sawRight then some .lt
      else orderIn tables left right leftRules rightRules true sawRight rest
    else if rankMatches tables right rightRules rank then
      if sawLeft then some .gt
      else orderIn tables left right leftRules rightRules sawLeft true rest
    else orderIn tables left right leftRules rightRules sawLeft sawRight rest

def compareByOrder (tables : Tables) (left right : Precedence)
    (leftRules rightRules : List Nat) : Ordering :=
  (tables.orders.findSome? (orderIn tables left right leftRules rightRules false false)).getD .eq

/-- Compares precedences: numbers among themselves, with zero for an unset one, and all others by
the orders of the grammar. -/
def comparePrecedence (tables : Tables) (left right : Precedence)
    (leftRules rightRules : List Nat) : Ordering :=
  match left, right with
  | .level l, .level r =>
    if l != 0 || r != 0 then compare l r
    else compareByOrder tables left right leftRules rightRules
  | .level l, .unset =>
    if l != 0 then compare l 0 else compareByOrder tables left right leftRules rightRules
  | .unset, .level r =>
    if r != 0 then compare 0 r else compareByOrder tables left right leftRules rightRules
  | _, _ => compareByOrder tables left right leftRules rightRules

/-- The reductions that a token allows, strongest only, with what is needed to rank them. -/
structure Reductions where
  items : List Item := []
  precedence : Precedence := .unset
  rules : List Nat := []
  hasLeft : Bool := false
  hasRight : Bool := false
  hasNeither : Bool := false

def Reductions.add (tables : Tables) (found : Reductions) (item : Item) : Reductions :=
  let note (found : Reductions) : Reductions :=
    { items := found.items ++ [item]
      precedence := item.precedence
      rules := if found.rules.contains item.rule then found.rules else item.rule :: found.rules
      hasLeft := found.hasLeft || item.associativity == some .left
      hasRight := found.hasRight || item.associativity == some .right
      hasNeither := found.hasNeither || item.associativity == none }
  if found.items.isEmpty then note found
  else
    match comparePrecedence tables item.precedence found.precedence [item.rule] found.rules with
    | .gt => note {}
    | .eq => note found
    | .lt => found

def itemAt (tables : Tables) (core : Core) (position : Nat) : Item :=
  tables.items.getD (core.items.getD position 0) default

def reductionsAt (tables : Tables) (core : Core) (follow : Array Nat) (token : Nat) :
    Reductions :=
  core.complete.foldl (fun found position =>
    if (follow.getD position 0).testBit token then
      Reductions.add tables found (itemAt tables core position)
    else found) {}

def shifting (tables : Tables) (core : Core) (token : Nat) : List Item :=
  core.items.toList.filterMap fun number =>
    let item := tables.items.getD number default
    match item.next with
    | some next =>
      if 0 < item.place && (tables.firsts.getD next 0).testBit token then some item else none
    | none => none

/-- Decides between moving over a token and the reductions that it allows. -/
def resolve (tables : Tables) (going : List Item) (reductions : Reductions) : Response :=
  let shapes := reductions.items.map (·.shape)
  let both : Response := { reductions := shapes, shift := some false }
  let shiftOnly : Response := { shift := some false }
  let reduceOnly : Response := { reductions := shapes }
  let startRule := tables.symbols.size - 1
  let involved := (going ++ reductions.items).filter (·.rule != startRule)
  let auxiliary (rule : Nat) : Bool :=
    (tables.symbols[rule]?.map (·.auxiliary)).getD false
  let sameAuxiliary := match involved with
    | [] => false
    | item :: rest => auxiliary item.rule && rest.all (·.rule == item.rule)
  if sameAuxiliary then { reductions := shapes, shift := some true }
  else
    let ranks := going.map fun item =>
      comparePrecedence tables item.precedence reductions.precedence [item.rule] reductions.rules
    let more := ranks.any (· == .gt)
    let less := ranks.any (· == .lt)
    if more && !less then shiftOnly
    else if less && !more then reduceOnly
    else if !less && !more then
      if reductions.hasLeft && !reductions.hasNeither && !reductions.hasRight then reduceOnly
      else if reductions.hasRight && !reductions.hasNeither && !reductions.hasLeft then shiftOnly
      else both
    else both

/-- What a state with this core does with a token, where the items are followed as given. -/
def response (tables : Tables) (core : Core) (follow : Array Nat) (token : Nat) : Response :=
  let reductions := reductionsAt tables core follow token
  if core.shiftTokens.testBit token then
    if reductions.items.isEmpty then { shift := some false }
    else resolve tables (shifting tables core token) reductions
  else { reductions := reductions.items.map (·.shape) }

def reduceTokens (core : Core) (follow : Array Nat) : Nat :=
  core.complete.foldl (fun set position => set ||| follow.getD position 0) 0

/-- The tokens that are not moved over since a reduction is preferred. -/
def givenUp (tables : Tables) (core : Core) (follow : Array Nat) : Nat :=
  (Tables.members tables.tokenCount (reduceTokens core follow &&& core.shiftTokens)).foldl
    (fun set token =>
      if (response tables core follow token).shift.isNone then set ||| Tables.bit token else set) 0

end Resolution

end SourceIndex
