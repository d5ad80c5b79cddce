import SourceIndex.Parsing.ParseTree

/-
The parse stack of several readings at once. Readings share what they agree on: a node may be
reached in more than one way, and two readings that come to the same state at the same offset
become one.
-/

set_option autoImplicit false

namespace SourceIndex

/-- A way back from a node. No tree lies on it where the parser gave up on what came before. -/
structure Link where
  node : Nat
  tree : Option ParseTree
deriving Inhabited

structure StackNode where
  state : Nat
  position : Extent := {}
  links : Array Link := #[]
  cost : Nat := 0
  nodeCount : Nat := 0
  dynamic : Int := 0
deriving Inhabited

/-- A state further down, with how many trees lie above it. -/
structure Landmark where
  position : Extent
  depth : Nat
  state : Nat
deriving Inhabited

inductive Status where
  | active
  | halted
  /-- Waiting, with the token that it could not take. -/
  | paused (lookahead : ParseTree)
deriving Inhabited

structure Head where
  node : Nat
  status : Status := .active
  countAtError : Nat := 0
  scanState : ScanState := []
  landmarks : Option (Array Landmark) := none
deriving Inhabited

structure Stack where
  nodes : Array StackNode := #[]
  heads : Array Head := #[]
deriving Inhabited

/-- What was popped: the trees in order, and the reading that is left. -/
structure Slice where
  trees : Array ParseTree
  version : Nat
deriving Inhabited

namespace Stack

def errorState : Nat := 0

def maxLinks : Nat := 8

def maxPaths : Nat := 64

def ofState (state : Nat) : Stack :=
  { nodes := #[{ state }], heads := #[{ node := 0 }] }

def head (stack : Stack) (version : Nat) : Head := stack.heads.getD version default

def node (stack : Stack) (index : Nat) : StackNode := stack.nodes.getD index default

def top (stack : Stack) (version : Nat) : StackNode := stack.node (stack.head version).node

def count (stack : Stack) : Nat := stack.heads.size

def state (stack : Stack) (version : Nat) : Nat := (stack.top version).state

def position (stack : Stack) (version : Nat) : Extent := (stack.top version).position

def isActive (stack : Stack) (version : Nat) : Bool :=
  match stack.heads[version]? with
  | some { status := .active, .. } => true
  | _ => false

def isHalted (stack : Stack) (version : Nat) : Bool :=
  match stack.heads[version]? with
  | some { status := .halted, .. } => true
  | _ => false

def isPaused (stack : Stack) (version : Nat) : Bool :=
  match stack.heads[version]? with
  | some { status := .paused _, .. } => true
  | _ => false

def haltedCount (stack : Stack) : Nat :=
  ((List.range stack.count).filter stack.isHalted).length

def modifyHead (stack : Stack) (version : Nat) (change : Head → Head) : Stack :=
  { stack with heads := stack.heads.modify version change }

def halt (stack : Stack) (version : Nat) : Stack :=
  stack.modifyHead version fun head => { head with status := .halted }

def setScanState (stack : Stack) (version : Nat) (scanState : ScanState) : Stack :=
  stack.modifyHead version fun head => { head with scanState }

def pause (stack : Stack) (version : Nat) (lookahead : ParseTree) : Stack :=
  let count := (stack.top version).nodeCount
  stack.modifyHead version fun head =>
    { head with status := .paused lookahead, countAtError := count }

def remove (stack : Stack) (version : Nat) : Stack :=
  { stack with heads := stack.heads.eraseIdxIfInBounds version }

def renumber (stack : Stack) (source target : Nat) : Stack :=
  if source == target then stack
  else
    let moved := stack.head source
    let replaced := stack.head target
    let moved := match moved.landmarks with
      | some _ => moved
      | none => { moved with landmarks := replaced.landmarks }
    { stack with heads := (stack.heads.set! target moved).eraseIdxIfInBounds source }

def swap (stack : Stack) (a b : Nat) : Stack :=
  { stack with heads := stack.heads.swapIfInBounds a b }

def copy (stack : Stack) (version : Nat) : Stack :=
  { stack with heads := stack.heads.push { stack.head version with landmarks := none } }

def push (stack : Stack) (version : Nat) (tree : Option ParseTree) (state : Nat) : Stack :=
  let below := stack.top version
  let head := stack.head version
  let link : Link := ⟨head.node, tree⟩
  let added : StackNode := match tree with
    | some tree =>
      { state
        position := below.position + tree.total
        links := #[link]
        cost := below.cost + tree.cost
        nodeCount := below.nodeCount + tree.nodeCount
        dynamic := below.dynamic + tree.summary.dynamic }
    | none => { below with state, links := #[link] }
  let index := stack.nodes.size
  { nodes := stack.nodes.push added
    heads := stack.heads.set! version
      { head with
        node := index
        countAtError := if tree.isNone then added.nodeCount else head.countAtError } }

/-- Whether two trees on links need not both be kept; breaks are alike. -/
def sameStep (left right : Option ParseTree) : Bool :=
  match left, right with
  | none, none => true
  | some left, some right => left.equivalent right
  | _, _ => false

def weightOf (stack : Stack) (link : Link) : Int :=
  (stack.node link.node).dynamic + (match link.tree with
    | some tree => tree.summary.dynamic
    | none => 0)

/-- Gives node `self` another way back, unless it has one that does as well. -/
def addLink (self : Nat) : Nat → Link → Stack → Stack
  | 0, _, stack => stack
  | fuel + 1, link, stack =>
    if link.node == self then stack
    else
      let own := stack.node self
      let target := stack.node link.node
      let found := own.links.findIdx? fun existing =>
        sameStep existing.tree link.tree &&
          (existing.node == link.node ||
            (let other := stack.node existing.node
             other.state == target.state && other.position.bytes == target.position.bytes &&
               other.cost == target.cost))
      match found.bind (fun place => own.links[place]?.map fun existing => (place, existing)) with
      | some (place, existing) =>
        if existing.node == link.node then
          let weight (tree : Option ParseTree) : Int :=
            (tree.map (·.summary.dynamic)).getD 0
          if weight existing.tree < weight link.tree then
            { stack with
              nodes := stack.nodes.modify self fun node =>
                { node with
                  links := node.links.set! place { existing with tree := link.tree }
                  dynamic := target.dynamic + weight link.tree } }
          else stack
        else
          let stack := target.links.foldl (fun stack other =>
            addLink existing.node fuel other stack) stack
          let weight := stack.weightOf link
          { stack with
            nodes := stack.nodes.modify self fun node =>
              { node with dynamic := max node.dynamic weight } }
      | none =>
        if maxLinks ≤ own.links.size then stack
        else
          let count := target.nodeCount + ((link.tree.map (·.nodeCount)).getD 0)
          let weight := stack.weightOf link
          { stack with
            nodes := stack.nodes.modify self fun node =>
              { node with
                links := node.links.push link
                nodeCount := max node.nodeCount count
                dynamic := max node.dynamic weight } }

def canMerge (stack : Stack) (first second : Nat) : Bool :=
  let a := stack.top first
  let b := stack.top second
  stack.isActive first && stack.isActive second && a.state == b.state &&
    a.position.bytes == b.position.bytes && a.cost == b.cost &&
    (stack.head first).scanState == (stack.head second).scanState

def merge? (stack : Stack) (first second : Nat) : Option Stack :=
  if stack.canMerge first second then
    let target := (stack.head first).node
    let merged := (stack.top second).links.foldl (fun stack link =>
      addLink target (stack.nodes.size + 1) link stack) stack
    let top := merged.top first
    let merged := if top.state == errorState then
        merged.modifyHead first fun head => { head with countAtError := top.nodeCount }
      else merged
    some (merged.remove second)
  else none

structure Path where
  node : Nat
  /-- The trees met, topmost first. -/
  trees : Array ParseTree := #[]
  /-- How many of them count, extras left out and breaks included. -/
  counted : Nat := 0
deriving Inhabited

structure Verdict where
  pop : Bool
  stop : Bool

def Path.follow (path : Path) (link : Link) : Path :=
  match link.tree with
  | some tree =>
    { node := link.node
      trees := path.trees.push tree
      counted := if tree.isExtra then path.counted else path.counted + 1 }
  | none => { path with node := link.node, counted := path.counted + 1 }

/-- Adds what a path popped. Paths that end at one node leave one reading. -/
def addSlice (stack : Stack) (version : Nat) (path : Path) (slices : Array Slice) :
    Stack × Array Slice :=
  let trees := path.trees.reverse
  let found := (List.range slices.size).reverse.find? fun place =>
    match slices[place]? with
    | some slice => (stack.head slice.version).node == path.node
    | none => false
  match found with
  | some place =>
    let shared := ((slices[place]?).map (·.version)).getD 0
    (stack, slices.insertIdxIfInBounds (place + 1) ⟨trees, shared⟩)
  | none =>
    let original := stack.head version
    let added : Head :=
      { node := path.node, countAtError := original.countAtError, scanState := original.scanState }
    ({ stack with heads := stack.heads.push added }, slices.push ⟨trees, stack.heads.size⟩)

/-- One round of a walk: each path is judged and then follows its links. -/
structure Walk (σ : Type) where
  stack : Stack
  slices : Array Slice := #[]
  kept : Array Path := #[]
  forked : Array Path := #[]
  size : Nat
  memory : σ

def walkStep {σ : Type} (version : Nat) (judge : σ → StackNode → Path → σ × Verdict)
    (walk : Walk σ) (path : Path) : Walk σ :=
  let node := walk.stack.node path.node
  let (memory, verdict) := judge walk.memory node path
  let stop := verdict.stop || node.links.isEmpty
  let (stack, slices) :=
    if verdict.pop then walk.stack.addSlice version path walk.slices
    else (walk.stack, walk.slices)
  if stop then { walk with stack, slices, memory, size := walk.size - 1 }
  else
    let (forked, size) := (node.links.extract 1 node.links.size).foldl (fun (forked, size) link =>
      if maxPaths ≤ size then (forked, size) else (forked.push (path.follow link), size + 1))
      (walk.forked, walk.size)
    let kept := match node.links[0]? with
      | some link => walk.kept.push (path.follow link)
      | none => walk.kept
    { stack, slices, kept, forked, size, memory }

def walkRounds {σ : Type} (version : Nat) (judge : σ → StackNode → Path → σ × Verdict) :
    Nat → Walk σ → Walk σ
  | 0, walk => walk
  | fuel + 1, walk =>
    let paths := walk.kept ++ walk.forked
    if paths.isEmpty then walk
    else
      walkRounds version judge fuel
        (paths.foldl (walkStep version judge)
          { walk with kept := #[], forked := #[], size := paths.size })

def walk {σ : Type} (stack : Stack) (version : Nat)
    (judge : σ → StackNode → Path → σ × Verdict) (memory : σ) : Walk σ :=
  walkRounds version judge (stack.nodes.size + 1)
    { stack, kept := #[{ node := (stack.head version).node }], size := 1, memory }

def popCount (stack : Stack) (version goal : Nat) : Stack × Array Slice :=
  let walk := stack.walk version (fun (_ : Unit) _ path =>
    ((), ⟨path.counted == goal, path.counted == goal⟩)) ()
  (walk.stack, walk.slices)

def popAll (stack : Stack) (version : Nat) : Stack × Array Slice :=
  let walk := stack.walk version (fun (_ : Unit) node _ =>
    ((), ⟨node.links.isEmpty, false⟩)) ()
  (walk.stack, walk.slices)

def popError (stack : Stack) (version : Nat) : Stack × Array ParseTree :=
  let onTop := (stack.top version).links.any fun link =>
    match link.tree with
    | some tree => tree.isError
    | none => false
  if onTop then
    let walk := stack.walk version (fun found _ path =>
      match path.trees[0]? with
      | some tree =>
        if !found && tree.isError then (true, ⟨true, true⟩) else (found, ⟨false, true⟩)
      | none => (found, ⟨false, false⟩)) false
    match walk.slices[0]? with
    | some slice => (walk.stack.renumber slice.version version, slice.trees)
    | none => (walk.stack, #[])
  else (stack, #[])

def noteLandmark (maxDepth : Nat) (landmarks : Array Landmark) (node : StackNode)
    (path : Path) : Array Landmark × Verdict :=
  if maxDepth < path.counted then (landmarks, ⟨false, true⟩)
  else
    let recent := landmarks.toList.reverse.takeWhile fun landmark => path.counted ≤ landmark.depth
    let known := recent.any fun landmark =>
      landmark.depth == path.counted && landmark.state == node.state
    if known then (landmarks, ⟨false, false⟩)
    else (landmarks.push ⟨node.position, path.counted, node.state⟩, ⟨false, false⟩)

/-- Remembers the states below, to which the parser may go back after an error. -/
def recordLandmarks (stack : Stack) (version maxDepth : Nat) : Stack :=
  let walk := stack.walk version (noteLandmark maxDepth) #[]
  stack.modifyHead version fun head => { head with landmarks := some walk.memory }

def cost (stack : Stack) (version : Nat) : Nat :=
  let top := stack.top version
  let atBreak := top.state == errorState &&
    (match top.links[0]? with
     | some link => link.tree.isNone
     | none => false)
  if stack.isPaused version || atBreak then top.cost + Cost.standard.recovery else top.cost

/-- The nodes found since the last error; the count at the error is lowered to at most the
present one. -/
def countSinceError (stack : Stack) (version : Nat) : Nat × Stack :=
  let count := (stack.top version).nodeCount
  let head := stack.head version
  if count < head.countAtError then
    (0, stack.modifyHead version fun head => { head with countAtError := count })
  else (count - head.countAtError, stack)

def advancedFrom (stack : Stack) (countAtError : Nat) : Nat → Nat → Bool
  | 0, _ => false
  | fuel + 1, index =>
    let node := stack.node index
    match node.links[0]? with
    | some link =>
      match link.tree with
      | some tree =>
        if 0 < tree.total.bytes then true
        else if countAtError < node.nodeCount && tree.cost == 0 then
          advancedFrom stack countAtError fuel link.node
        else false
      | none => false
    | none => false

def advancedSinceError (stack : Stack) (version : Nat) : Bool :=
  let head := stack.head version
  if (stack.top version).cost == 0 then true
  else advancedFrom stack head.countAtError (stack.nodes.size + 1) head.node

end Stack

end SourceIndex
