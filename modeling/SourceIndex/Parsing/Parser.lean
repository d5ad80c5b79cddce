import SourceIndex.Lexing.Lexer
import SourceIndex.Parsing.ParseTable
import SourceIndex.Parsing.Stack

/-
Parsing with several readings at once. Where a token cannot be taken, the parser goes on in two
ways: it takes up an earlier state in which the token fits and puts all since then into an error,
or it skips the token; the cheapest reading of the whole text wins.
-/

set_option autoImplicit false

namespace SourceIndex

namespace Parser

structure Input where
  table : ParseTable
  scanner : Scanner
  source : Source

/-- The last token read: at which offset, in which states of the parser and of the scanner. -/
structure LastToken where
  offset : Nat
  state : Nat
  scanState : ScanState
  tree : ParseTree

/-- What was found: the best tree of the whole text so far, and how many there were. -/
structure Progress where
  finished : Option ParseTree := none
  accepted : Nat := 0
  lastToken : Option LastToken := none

abbrev ParseM := ReaderT Input (StateT Stack (StateM Progress))

def maxVersions : Nat := 6

def versionSlack : Nat := 4

def maxLandmarkDepth : Nat := 16

/-- How much dearer a reading may be for each node it found since its last error. -/
def costMargin : Nat := 18 * Cost.standard.skippedTree

def onStack {α : Type} (f : Stack → α) : ParseM α := do return f (← getThe Stack)

def changeStack (f : Stack → Stack) : ParseM Unit := modifyThe Stack f

def table : ParseM ParseTable := do return (← read).table

def tables : ParseM Tables := do return (← read).table.tables

def actionsFor (state symbol : Nat) : ParseM (List Action) := do
  if ParseTree.isSkip symbol then return [] else return (← table).actions state symbol

/-- The state after a symbol; the error state where the symbol cannot come. -/
def nextState (state symbol : Nat) : ParseM Nat := do
  if ParseTree.isSkip symbol then return ParseTable.errorState
  else return (← table).nextState state symbol

def extentBetween (source : Source) (first last : Nat) : Extent :=
  ⟨last - first, source.rowsBetween first last⟩

/-- Characters that no token covers: from where to where. -/
abbrev Skipped := Option (Nat × Nat)

def errorLeaf (tables : Tables) (source : Source) (start first last : Nat) : ParseTree :=
  ParseTree.leaf tables errorSymbol (extentBetween source start first)
    (extentBetween source first last)

/-- What the external scanner finds at `offset`. An empty token that changes nothing is refused
where it could be found again and again. -/
def scanExternal (version state valid : Nat) (errorMode : Bool) (offset : Nat) :
    ParseM (Option Scanned) := do
  if valid == 0 then return none
  let input ← read
  let externals := input.table.tables.externals
  let before ← onStack fun stack => (stack.head version).scanState
  let allowed (index : Nat) : Bool :=
    match externals[index]? with
    | some symbol => valid.testBit symbol
    | none => false
  match input.scanner input.source allowed before offset with
  | none => return none
  | some found =>
    if found.last ≤ offset && found.state == before then
      let symbol := externals.getD found.symbol 0
      let next ← nextState state symbol
      let advanced ← onStack fun stack => stack.advancedSinceError version
      if errorMode || !advanced || next == state then return none
      return some found
    return some found

def externalLeaf (tables : Tables) (source : Source) (start : Nat) (before : ScanState)
    (found : Scanned) : ParseTree :=
  match ParseTree.leaf tables (tables.externals.getD found.symbol 0)
      (extentBetween source start found.first) (extentBetween source found.first found.last) with
  | .node summary children =>
    .node { summary with
      external := true, scanState := found.state, scanStateChanged := found.state != before }
      children

/-- The leaf of a lexical token; a word that spells a keyword with a use here is that keyword. -/
def lexicalLeaf (start state index first last : Nat) : ParseM ParseTree := do
  let source := (← read).source
  let tables ← tables
  let padding := extentBetween source start first
  let size := extentBetween source first last
  if tables.word == some index then
    match (← table).keywords[source.slice first last]? with
    | some keyword =>
      let actions ← actionsFor state keyword
      if actions.isEmpty then return ParseTree.leaf tables index padding size
      match ParseTree.leaf tables keyword padding size with
      | .node summary children => return .node { summary with keyword := true } children
    | none => return ParseTree.leaf tables index padding size
  else return ParseTree.leaf tables index padding size

/-- Looks for a token from `offset` on. Where the state finds none, all that are looked for after an
error are tried; where there is none of these, characters are skipped up to the next one. -/
def lexFrom (version state start : Nat) : Nat → Bool → Nat → Skipped → ParseM ParseTree
  | 0, _, offset, _ => do
    return errorLeaf (← tables) (← read).source start start offset
  | fuel + 1, errorMode, offset, skipped => do
    let source := (← read).source
    let table ← table
    let tables := table.tables
    let looking := if errorMode then ParseTable.errorState else state
    let asError (first last : Nat) : ParseTree := errorLeaf tables source start first last
    match ← scanExternal version state (table.scannable looking) errorMode offset with
    | some found =>
      match skipped with
      | some (first, last) => return asError first last
      | none =>
        let before ← onStack fun stack => (stack.head version).scanState
        return externalLeaf tables source start before found
    | none =>
      let wanted := (table.state looking).wanted
      let outcome := Lexer.next tables.lexicon source wanted (wanted.testBit 0) offset
      match outcome with
      | .token index first last =>
        match skipped with
        | some (first, last) => return asError first last
        | none => lexicalLeaf start state index first last
      | .endOfText first =>
        match skipped with
        | some (first, last) => return asError first last
        | none => return ParseTree.leaf tables 0 (extentBetween source start first) {}
      | .failure first stop =>
        if !errorMode then lexFrom version state start fuel true start none
        else
          let (first, last) := skipped.getD (first, first)
          if stop == last then
            if source.atEnd stop then return asError first last
            let after := source.next stop
            lexFrom version state start fuel true after (some (first, after))
          else lexFrom version state start fuel true stop (some (first, stop))

/-- Reads the next token; none where an extra rule ends whatever comes next. -/
def lex (version state : Nat) : ParseM (Option ParseTree) := do
  if ((← table).state state).endsExtra then return none
  let offset ← onStack fun stack => (stack.position version).bytes
  let scanState ← onStack fun stack => (stack.head version).scanState
  let source := (← read).source
  let tree ← lexFrom version state offset (2 * source.size + 10)
    (state == ParseTable.errorState) offset none
  modifyThe Progress fun progress =>
    { progress with lastToken := some { offset, state, scanState, tree } }
  return some tree

/-- Whether a token is the same in `state`, where it is met again: the states look for the same
tokens, or no other token that `state` knows could be found in its place. -/
def servesIn (table : ParseTable) (token : LastToken) (state : Nat) : Bool :=
  let tree := token.tree
  let actions := if tree.isError then [] else table.actions state tree.symbol
  let hasActions := !actions.isEmpty
  let isWord := table.tables.word == some tree.symbol
  if (table.state state).endsExtra then false
  else if hasActions && table.looksAlike token.state state &&
      (!isWord || (!tree.summary.keyword && token.state == state)) then true
  else if tree.summary.size.bytes == 0 && tree.symbol != 0 then false
  else
    match actions with
    | [] | [.recover] => false
    | _ => table.scannable state == 0 && table.isDistinct state tree.symbol

/-- The next token of a reading: the last token read, if it stands there and serves. -/
def nextToken (version state : Nat) : ParseM (Option ParseTree) := do
  let offset ← onStack fun stack => (stack.position version).bytes
  let scanState ← onStack fun stack => (stack.head version).scanState
  let table ← table
  match (← getThe Progress).lastToken with
  | some token =>
    if token.offset == offset && token.scanState == scanState && servesIn table token state then
      return some token.tree
    else lex version state
  | none => lex version state

structure Standing where
  cost : Nat
  nodeCount : Nat
  dynamic : Int
  inError : Bool

inductive Comparison where
  | takeLeft
  | preferLeft
  | equal
  | preferRight
  | takeRight

def Standing.compare (a b : Standing) : Comparison :=
  if !a.inError && b.inError then
    if a.cost < b.cost then .takeLeft else .preferLeft
  else if a.inError && !b.inError then
    if b.cost < a.cost then .takeRight else .preferRight
  else if a.cost < b.cost then
    if costMargin < (b.cost - a.cost) * (1 + a.nodeCount) then .takeLeft else .preferLeft
  else if b.cost < a.cost then
    if costMargin < (a.cost - b.cost) * (1 + b.nodeCount) then .takeRight else .preferRight
  else if b.dynamic < a.dynamic then .preferLeft
  else if a.dynamic < b.dynamic then .preferRight
  else .equal

def countSinceError (version : Nat) : ParseM Nat :=
  modifyGetThe Stack fun stack => stack.countSinceError version

def standing (version : Nat) : ParseM Standing := do
  let nodeCount ← countSinceError version
  onStack fun stack =>
    let paused := stack.isPaused version
    { cost := stack.cost version + (if paused then Cost.standard.skippedTree else 0)
      nodeCount
      dynamic := (stack.top version).dynamic
      inError := paused || stack.state version == ParseTable.errorState }

/-- Whether a reading of cost `cost` in the place of `version` would be clearly worse than what
there is. -/
def betterExists (version : Nat) (inError : Bool) (cost : Nat) : ParseM Bool := do
  let finished := (← getThe Progress).finished
  if finished.any fun tree => tree.cost ≤ cost then return true
  let nodeCount ← countSinceError version
  let own ← onStack fun stack =>
    { cost, nodeCount, dynamic := (stack.top version).dynamic, inError : Standing }
  let position ← onStack fun stack => (stack.position version).bytes
  let count ← onStack Stack.count
  for other in [0:count] do
    let relevant ← onStack fun stack =>
      other != version && stack.isActive other && position ≤ (stack.position other).bytes
    if relevant then
      match own.compare (← standing other) with
      | .takeRight => return true
      | .preferRight => if ← onStack fun stack => stack.canMerge other version then return true
      | _ => pure ()
  return false

def shift (version state : Nat) (lookahead : ParseTree) (extra : Bool) : ParseM Unit := do
  let tree := if lookahead.isExtra == extra then lookahead else lookahead.setExtra extra
  changeStack fun stack => stack.push version (some tree) state
  if tree.summary.external then
    changeStack fun stack => stack.setScanState version tree.summary.scanState

/-- Of several lists of children of one node, keeps the preferred one, with its trailing extras. -/
def chooseChildren (tables : Tables) (shape : NodeShape) (parent : ParseTree)
    (extras : Array ParseTree) : List Slice → ParseTree × Array ParseTree
  | [] => (parent, extras)
  | slice :: rest =>
    let (children, otherExtras) := ParseTree.splitExtras slice.trees
    if parent.prefersSecond (ParseTree.build tables shape.rule children #[] #[]) then
      chooseChildren tables shape (ParseTree.ofShape tables shape children) otherExtras rest
    else chooseChildren tables shape parent extras rest

/-- Merges a new reading into an older one other than `version`, if one agrees. -/
def mergeInto (version added : Nat) : ParseM Bool := do
  for other in [0:added] do
    if other != version then
      match ← onStack fun stack => stack.merge? other added with
      | some merged =>
        set merged
        return true
      | none => pure ()
  return false

/-- Puts a reduced node on each reading that a pop left; the slices of one reading are
alternatives. `removed` readings were taken away since the pop. -/
def pushReduced (version : Nat) (shape : NodeShape) (endsExtra : Bool) :
    Nat → List Slice → Nat → ParseM Unit
  | 0, _, _ => pure ()
  | _, [], _ => pure ()
  | fuel + 1, slice :: rest, removed => do
    let tables ← tables
    let alternatives := rest.takeWhile (·.version == slice.version)
    let others := rest.dropWhile (·.version == slice.version)
    let current := slice.version - removed
    let halted ← onStack Stack.haltedCount
    if maxVersions + versionSlack + halted < current then
      changeStack fun stack => stack.remove current
      pushReduced version shape endsExtra fuel others (removed + 1)
    else
      let (children, extras) := ParseTree.splitExtras slice.trees
      let (parent, extras) := chooseChildren tables shape
        (ParseTree.ofShape tables shape children) extras alternatives
      let state ← onStack fun stack => stack.state current
      let next ← nextState state shape.rule
      let parent := if endsExtra && next == state then parent.setExtra true else parent
      let parent := parent.addDynamic shape.dynamic
      changeStack fun stack =>
        extras.foldl (fun stack tree => stack.push current (some tree) next)
          (stack.push current (some parent) next)
      let merged ← mergeInto version current
      pushReduced version shape endsExtra fuel others (if merged then removed + 1 else removed)

/-- Reduces on a copy of the reading; gives the first reading that is new. -/
def reduce (version : Nat) (shape : NodeShape) (endsExtra : Bool) : ParseM (Option Nat) := do
  let before ← onStack Stack.count
  let slices ← modifyGetThe Stack fun stack =>
    let (stack, slices) := stack.popCount version shape.size
    (slices, stack)
  pushReduced version shape endsExtra (slices.size + 1) slices.toList 0
  let after ← onStack Stack.count
  return if before < after then some before else none

/-- Replaces the one tree that is not extra by its children, and keeps it as the root. -/
def rootOf (tables : Tables) (trees : Array ParseTree) : Option ParseTree :=
  match (List.range trees.size).reverse.find? fun place =>
      match trees[place]? with
      | some tree => !tree.isExtra
      | none => false with
  | none => none
  | some place =>
    trees[place]?.map fun tree =>
      let all := trees.extract 0 place ++ tree.children.toArray ++
        trees.extract (place + 1) trees.size
      ParseTree.build tables tree.symbol all tree.summary.aliases tree.summary.fields

def accept (version : Nat) (lookahead : ParseTree) : ParseM Unit := do
  changeStack fun stack => stack.push version (some lookahead) ParseTable.startState
  let slices ← modifyGetThe Stack fun stack =>
    let (stack, slices) := stack.popAll version
    (slices, stack)
  let tables ← tables
  for slice in slices do
    match rootOf tables slice.trees with
    | none => pure ()
    | some root =>
      modifyThe Progress fun progress =>
        { accepted := progress.accepted + 1
          finished := match progress.finished with
            | some finished => if finished.prefersSecond root then some root else some finished
            | none => some root }
  match slices[0]? with
  | some slice => changeStack fun stack => stack.remove slice.version
  | none => pure ()
  changeStack fun stack => stack.halt version

def tokensOf (tables : Tables) : List Nat := (List.range (tables.tokenCount - 1)).map (· + 1)

/-- The reductions of a state, for one token or, with none given, for any. -/
def reductionsFor (state : Nat) (tokens : List Nat) : ParseM (Bool × List NodeShape) := do
  let mut canShift := false
  let mut found : Array NodeShape := #[]
  for token in tokens do
    for action in ← actionsFor state token do
      match action with
      | .shift _ repetition => if !repetition then canShift := true
      | .recover => canShift := true
      | .reduce shape =>
        if 0 < shape.size &&
            !found.any (fun other => other.rule == shape.rule && other.size == shape.size) then
          found := found.push shape
      | _ => pure ()
  return (canShift, found.toList)

/-- Merges `version` into one of the readings from `first` on. -/
def mergeFrom (first version : Nat) : ParseM Bool := do
  for other in [first:version] do
    match ← onStack fun stack => stack.merge? other version with
    | some merged =>
      set merged
      return true
    | none => pure ()
  return false

/-- Carries out all reductions that `token` allows, each on a reading of its own, and tells whether
a reading can then shift. The end of the text, token zero, stands for all tokens. -/
def reduceAll (startVersion initialCount token : Nat) :
    Nat → Nat → Nat → Bool → ParseM Bool
  | 0, _, _, canShift => return canShift
  | fuel + 1, round, version, canShift => do
    let count ← onStack Stack.count
    if count ≤ version then return canShift
    if ← mergeFrom initialCount version then
      reduceAll startVersion initialCount token fuel (round + 1) version canShift
    else
      let state ← onStack fun stack => stack.state version
      let tables ← tables
      let tokens := if token == 0 then tokensOf tables else [token]
      let (shifts, shapes) ← reductionsFor state tokens
      let mut reduced : Option Nat := none
      for shape in shapes do
        reduced ← reduce version shape false
      let next := if version == startVersion then count else version + 1
      if shifts then reduceAll startVersion initialCount token fuel (round + 1) next true
      else match reduced with
        | some source =>
          if round < maxVersions then
            changeStack fun stack => stack.renumber source version
            reduceAll startVersion initialCount token fuel (round + 1) version canShift
          else
            if token != 0 then changeStack fun stack => stack.remove version
            reduceAll startVersion initialCount token fuel (round + 1) next canShift
        | none =>
          if token != 0 then changeStack fun stack => stack.remove version
          reduceAll startVersion initialCount token fuel (round + 1) next canShift

def doAllReductions (version token : Nat) : ParseM Bool := do
  let count ← onStack Stack.count
  reduceAll version count token 10000 0 version false

/-- Goes back `depth` trees to a reading in state `goal`, and puts them into an error. -/
def recoverSlices (goal : Nat) : List Slice → Option Nat → ParseM (Option Nat)
  | [], previous => return previous
  | slice :: rest, previous => do
    let state ← onStack fun stack => stack.state slice.version
    if previous == some slice.version then recoverSlices goal rest previous
    else if state != goal then
      changeStack fun stack => stack.halt slice.version
      recoverSlices goal rest previous
    else
      let tables ← tables
      let errors ← modifyGetThe Stack fun stack =>
        let (stack, trees) := stack.popError slice.version
        (trees, stack)
      let inner := match errors[0]? with
        | some tree => tree.children.toArray
        | none => #[]
      let (trees, extras) := ParseTree.splitExtras (inner ++ slice.trees)
      if !trees.isEmpty then
        changeStack fun stack =>
          stack.push slice.version (some (ParseTree.error tables trees true)) goal
      changeStack fun stack =>
        extras.foldl (fun stack tree => stack.push slice.version (some tree) goal) stack
      recoverSlices goal rest (some slice.version)

def recoverTo (version depth goal : Nat) : ParseM Bool := do
  let slices ← modifyGetThe Stack fun stack =>
    let (stack, slices) := stack.popCount version depth
    (slices, stack)
  return (← recoverSlices goal slices.toList none).isSome

/-- Looks through the remembered states for one in which the token fits. -/
def recoverFrom (version : Nat) (lookahead : ParseTree) (versionCount nodesSince cost : Nat)
    (position : Extent) : List Landmark → ParseM Bool
  | [] => return false
  | landmark :: rest => do
    let again := recoverFrom version lookahead versionCount nodesSince cost position rest
    if landmark.state == ParseTable.errorState || landmark.position.bytes == position.bytes then
      again
    else
      let depth := if 0 < nodesSince then landmark.depth + 1 else landmark.depth
      let wouldMerge ← onStack fun stack => (List.range versionCount).any fun other =>
        stack.state other == landmark.state && (stack.position other).bytes == position.bytes
      if wouldMerge then again
      else
        let newCost := cost + landmark.depth * Cost.standard.skippedTree +
          (position.bytes - landmark.position.bytes) * Cost.standard.skippedByte +
          (position.rows - landmark.position.rows) * Cost.standard.skippedLine
        if ← betterExists version false newCost then return false
        else if (← actionsFor landmark.state lookahead.symbol).isEmpty then again
        else if ← recoverTo version depth landmark.state then return true
        else again

/-- Removes the readings from `first` on that are not active. -/
def removeInactive : Nat → Nat → ParseM Unit
  | 0, _ => pure ()
  | fuel + 1, version => do
    let count ← onStack Stack.count
    if version < count then
      if ← onStack fun stack => stack.isActive version then removeInactive fuel (version + 1)
      else
        changeStack fun stack => stack.remove version
        removeInactive fuel version

/-- Skips the token: it joins the run of skipped tokens on top, if there is one. -/
def skipToken (version : Nat) (lookahead : ParseTree) (nodesSince : Nat) : ParseM Unit := do
  let tables ← tables
  let actions ← actionsFor ParseTable.startState lookahead.symbol
  let lookahead := match actions.getLast? with
    | some .shiftExtra => lookahead.setExtra true
    | _ => lookahead
  let mut run := ParseTree.skipped tables #[lookahead]
  if 0 < nodesSince then
    let slices ← modifyGetThe Stack fun stack =>
      let (stack, slices) := stack.popCount version 1
      (slices, stack)
    match slices[0]? with
    | none => pure ()
    | some slice =>
      let count ← onStack Stack.count
      for _ in [slice.version + 1:count] do
        changeStack fun stack => stack.remove (slice.version + 1)
      changeStack fun stack => stack.renumber slice.version version
      run := ParseTree.skipped tables (slice.trees.push run)
  changeStack fun stack => stack.push version (some run) ParseTable.errorState
  if lookahead.summary.external then
    changeStack fun stack => stack.setScanState version lookahead.summary.scanState

def recover (version : Nat) (lookahead : ParseTree) : ParseM Unit := do
  let versionCount ← onStack Stack.count
  let position ← onStack fun stack => stack.position version
  let landmarks ← onStack fun stack => (stack.head version).landmarks
  let nodesSince ← countSinceError version
  let cost ← onStack fun stack => stack.cost version
  let recovered ← match landmarks with
    | some landmarks =>
      if lookahead.isError then pure false
      else recoverFrom version lookahead versionCount nodesSince cost position landmarks.toList
    | none => pure false
  let count ← onStack Stack.count
  removeInactive (count + 1) versionCount
  let tables ← tables
  if lookahead.symbol == 0 then
    -- at the end of the text all that is left becomes an error
    changeStack fun stack =>
      stack.push version (some (ParseTree.error tables #[] false)) ParseTable.startState
    accept version lookahead
  else
    let count ← onStack Stack.count
    let newCost := cost + Cost.standard.skippedTree +
      lookahead.total.bytes * Cost.standard.skippedByte +
      lookahead.total.rows * Cost.standard.skippedLine
    let giveUp ←
      if recovered && (maxVersions < count || lookahead.summary.scanStateChanged) then pure true
      else betterExists version false newCost
    if giveUp then changeStack fun stack => stack.halt version
    else skipToken version lookahead nodesSince

/-- Tries to go on as if one token had been left out before the lookahead. -/
def insertMissing (version : Nat) (lookahead : ParseTree) : List Nat → ParseM Bool
  | [] => return false
  | token :: rest => do
    let state ← onStack fun stack => stack.state version
    let again := insertMissing version lookahead rest
    let next ← nextState state token
    if next == ParseTable.errorState || next == state then again
    else
      match ← actionsFor next lookahead.symbol with
      | .reduce _ :: _ =>
        let copy ← onStack Stack.count
        let tables ← tables
        changeStack fun stack =>
          (stack.copy version).push copy (some (ParseTree.missingLeaf tables token)) next
        if ← doAllReductions copy lookahead.symbol then return true else again
      | _ => again

/-- Breaks off each reading in turn, after trying once to insert a missing token. -/
def breakOff (version previousCount versionCount : Nat) (lookahead : ParseTree) :
    Nat → Nat → Bool → ParseM Unit
  | 0, _, _ => pure ()
  | fuel + 1, current, inserted => do
    if current < versionCount then
      let tables ← tables
      let inserted ←
        if inserted then pure true
        else insertMissing current lookahead (tokensOf tables)
      changeStack fun stack => stack.push current none ParseTable.errorState
      let next := if current == version then previousCount else current + 1
      breakOff version previousCount versionCount lookahead fuel next inserted

def handleError (version : Nat) (lookahead : ParseTree) : ParseM Unit := do
  let previousCount ← onStack Stack.count
  let _ ← doAllReductions version 0
  let versionCount ← onStack Stack.count
  breakOff version previousCount versionCount lookahead (versionCount + 2) version false
  for _ in [previousCount:versionCount] do
    match ← onStack fun stack => stack.merge? version previousCount with
    | some merged => set merged
    | none => pure ()
  changeStack fun stack => stack.recordLandmarks version maxLandmarkDepth
  recover version lookahead

inductive Turn where
  | done
  /-- Reductions were made; the last of them left this reading. -/
  | reduced (version : Option Nat)
  | stuck

def runActions (version state : Nat) (lookahead : Option ParseTree) :
    List Action → Turn → ParseM Turn
  | [], turn => return turn
  | action :: rest, turn => do
    match action, lookahead with
    | .shift next repetition, some tree =>
      if repetition then runActions version state lookahead rest turn
      else
        shift version next tree false
        return .done
    | .shiftExtra, some tree =>
      shift version state tree true
      return .done
    | .reduce shape, _ =>
      let added ← reduce version shape lookahead.isNone
      let before := match turn with
        | .reduced version => version
        | _ => none
      runActions version state lookahead rest (.reduced (added <|> before))
    | .accept, some tree =>
      accept version tree
      return .done
    | .recover, some tree =>
      recover version tree
      return .done
    | _, none => runActions version state lookahead rest turn

/-- Lets a reading take its next token, reducing as far as it goes. -/
def takeToken (version : Nat) : Nat → Nat → Option ParseTree → ParseM Unit
  | 0, _, _ => changeStack fun stack => stack.halt version
  | fuel + 1, state, lookahead => do
    let symbol := match lookahead with
      | some tree => tree.symbol
      | none => 0
    match ← runActions version state lookahead (← actionsFor state symbol) .stuck with
    | .done => pure ()
    | .reduced (some source) =>
      changeStack fun stack => stack.renumber source version
      let state ← onStack fun stack => stack.state version
      match lookahead with
      | some _ => takeToken version fuel state lookahead
      | none => takeToken version fuel state (← lex version state)
    | .reduced none => changeStack fun stack => stack.halt version
    | .stuck =>
      match lookahead with
      | none => changeStack fun stack => stack.halt version
      | some tree =>
        let tables ← tables
        let asWord := match tree.summary.keyword, tables.word with
          | true, some word => if tree.symbol == word then none else some word
          | _, _ => none
        let wordActions ← match asWord with
          | some word => actionsFor state word
          | none => pure []
        match asWord with
        | some word =>
          if wordActions.isEmpty then changeStack fun stack => stack.pause version tree
          else
            let leaf := ParseTree.leaf tables word tree.summary.padding tree.summary.size
            takeToken version fuel state (some leaf)
        | none => changeStack fun stack => stack.pause version tree

def advance (version : Nat) : ParseM Unit := do
  let state ← onStack fun stack => stack.state version
  let size := (← read).source.size
  takeToken version (1000 + 16 * size) state (← nextToken version state)

/-- Compares reading `i` with the ones before it, drops or merges one of a pair, and keeps better
readings first. Gives the number of the last reading compared. -/
def condensePairs (own : Standing) : Nat → Nat → Nat → ParseM Nat
  | 0, i, _ => return i
  | fuel + 1, i, j => do
    if i ≤ j then return i
    match (← standing j).compare own with
    | .takeLeft =>
      changeStack fun stack => stack.remove i
      return i - 1
    | .preferLeft | .equal =>
      match ← onStack fun stack => stack.merge? j i with
      | some merged =>
        set merged
        return i - 1
      | none => condensePairs own fuel i (j + 1)
    | .preferRight =>
      match ← onStack fun stack => stack.merge? j i with
      | some merged =>
        set merged
        return i - 1
      | none =>
        changeStack fun stack => stack.swap i j
        condensePairs own fuel i (j + 1)
    | .takeRight =>
      changeStack fun stack => stack.remove j
      condensePairs own fuel (i - 1) j

/-- Drops halted readings and all that others make needless; gives the least cost of a reading
that is not in an error. -/
def condenseAll : Nat → Nat → Option Nat → ParseM (Option Nat)
  | 0, _, least => return least
  | fuel + 1, i, least => do
    let count ← onStack Stack.count
    if count ≤ i then return least
    if ← onStack fun stack => stack.isHalted i then
      changeStack fun stack => stack.remove i
      condenseAll fuel i least
    else
      let own ← standing i
      let least := if own.inError then least
        else match least with
          | some cost => some (min cost own.cost)
          | none => some own.cost
      let last ← condensePairs own (2 * i + 2) i 0
      condenseAll fuel (last + 1) least

/-- If no reading can go on, takes up the first that waits; others that wait are dropped. -/
def resumePaused : Nat → Nat → Nat → Bool → Option Nat → ParseM (Option Nat)
  | 0, _, _, _, least => return least
  | fuel + 1, i, count, unpaused, least => do
    if count ≤ i then return least
    let status ← onStack fun stack => (stack.head i).status
    match status with
    | .paused lookahead =>
      let accepted := (← getThe Progress).accepted
      if !unpaused && accepted < maxVersions then
        let cost ← onStack fun stack => stack.cost i
        changeStack fun stack => stack.modifyHead i fun head => { head with status := .active }
        handleError i lookahead
        resumePaused fuel (i + 1) count true (some cost)
      else
        changeStack fun stack => stack.remove i
        resumePaused fuel i (count - 1) unpaused least
    | _ => resumePaused fuel (i + 1) count true least

def condense : ParseM (Option Nat) := do
  let count ← onStack Stack.count
  let least ← condenseAll (4 * count + 4) 0 none
  let count ← onStack Stack.count
  for _ in [maxVersions:count] do
    changeStack fun stack => stack.remove maxVersions
  let count ← onStack Stack.count
  resumePaused (2 * count + 2) 0 count false least

/-- Lets one reading go on until it passes the furthest offset so far. -/
def advanceVersion (version : Nat) : Nat → Nat → ParseM Nat
  | 0, last => return last
  | fuel + 1, last => do
    if ← onStack fun stack => stack.isActive version then
      advance version
      let position ← onStack fun stack => (stack.position version).bytes
      if last < position || (0 < version && position == last) then return position
      advanceVersion version fuel last
    else return last

def advanceAll : Nat → Nat → Nat → ParseM Nat
  | 0, _, last => return last
  | fuel + 1, version, last => do
    let count ← onStack Stack.count
    if version < count then
      let size := (← read).source.size
      let last ← advanceVersion version (1000 + size) last
      advanceAll fuel (version + 1) last
    else return last

def run : Nat → Nat → ParseM Unit
  | 0, _ => pure ()
  | fuel + 1, last => do
    let last ← advanceAll 1000 0 last
    let count ← onStack Stack.count
    let least ← condense
    let finished := (← getThe Progress).finished
    let better := match finished, least with
      | some tree, some cost => tree.cost < cost
      | some _, none => true
      | none, _ => false
    if better || count == 0 then pure () else run fuel last

end Parser

def ParseTable.parse (table : ParseTable) (scanner : Scanner) (source : Source) : ParseTree :=
  let stack := Stack.ofState startState
  let ((_, _), progress) :=
    ((Parser.run (10000 + 200 * source.size) 0).run { table, scanner, source }).run stack |>.run {}
  match progress.finished with
  | some tree => tree
  | none => ParseTree.error table.tables #[] false

end SourceIndex
