import SourceIndex.Grammar.Tables
import SourceIndex.Lexing.Scanner

set_option autoImplicit false

namespace SourceIndex

/-- A stretch of text: bytes, and line feeds among them. -/
structure Extent where
  bytes : Nat := 0
  rows : Nat := 0
deriving BEq, DecidableEq, Inhabited

instance : Add Extent := ⟨fun a b => ⟨a.bytes + b.bytes, a.rows + b.rows⟩⟩

/-- What skipping and inventing text costs. -/
structure Cost where
  recovery : Nat := 500
  missing : Nat := 110
  skippedTree : Nat := 100
  skippedByte : Nat := 1
  skippedLine : Nat := 30

def Cost.standard : Cost := {}

def errorSymbol : Nat := 65535

/-- A run of skipped tokens while the parser still looks for a way on. -/
def skippedSymbol : Nat := 65534

structure Summary where
  symbol : Nat
  padding : Extent := {}
  size : Extent := {}
  visible : Bool := false
  named : Bool := false
  extra : Bool := false
  missing : Bool := false
  keyword : Bool := false
  external : Bool := false
  /-- The scanner's state after this token, and whether the token changed it. -/
  scanState : ScanState := []
  scanStateChanged : Bool := false
  cost : Nat := 0
  dynamic : Int := 0
  visibleChildren : Nat := 0
  visibleDescendants : Nat := 0
  aliases : Array (Option Alias) := #[]
  fields : Array (Option String) := #[]
deriving Inhabited

inductive ParseTree where
  | node (summary : Summary) (children : List ParseTree)
deriving Inhabited

namespace ParseTree

def summary : ParseTree → Summary
  | node summary _ => summary

def children : ParseTree → List ParseTree
  | node _ children => children

def symbol (tree : ParseTree) : Nat := tree.summary.symbol

def isLeaf (tree : ParseTree) : Bool := tree.children.isEmpty

def isError (tree : ParseTree) : Bool := tree.symbol == errorSymbol

def isExtra (tree : ParseTree) : Bool := tree.summary.extra

def total (tree : ParseTree) : Extent := tree.summary.padding + tree.summary.size

def cost (tree : ParseTree) : Nat :=
  if tree.summary.missing then Cost.standard.missing + Cost.standard.recovery
  else tree.summary.cost

def setExtra (extra : Bool) : ParseTree → ParseTree
  | node summary children => node { summary with extra } children

/-- Nodes that show, with runs of skipped tokens counted as one. -/
def nodeCount (tree : ParseTree) : Nat :=
  tree.summary.visibleDescendants + (if tree.summary.visible then 1 else 0) +
    (if tree.symbol == skippedSymbol then 1 else 0)

def symbolShows (tables : Tables) (symbol : Nat) : Bool × Bool :=
  if symbol == errorSymbol then (true, true)
  else match tables.symbols[symbol]? with
    | some info => (info.visible, info.named)
    | none => (false, false)

def leaf (tables : Tables) (symbol : Nat) (padding size : Extent) : ParseTree :=
  let (visible, named) := symbolShows tables symbol
  node { symbol, padding, size, visible, named, extra := symbol == 0 } []

def missingLeaf (tables : Tables) (symbol : Nat) : ParseTree :=
  let (visible, named) := symbolShows tables symbol
  node { symbol, visible, named, missing := true } []

def isSkip (symbol : Nat) : Bool := symbol == errorSymbol || symbol == skippedSymbol

/-- What a child skipped in an error costs besides its text. -/
def skippedCost (child : ParseTree) : Nat :=
  if child.isExtra || (child.isError && child.isLeaf) then 0
  else if child.summary.visible then Cost.standard.skippedTree
  else if child.isLeaf then 0
  else Cost.standard.skippedTree * child.summary.visibleChildren

/-- The summary so far, and the number of children so far that are not extra. -/
structure Tally where
  summary : Summary
  structural : Nat := 0
  first : Bool := true

def Tally.add (tally : Tally) (child : ParseTree) : Tally :=
  let summary := tally.summary
  let data := child.summary
  let aliased := !data.extra && data.symbol != 0 &&
    ((summary.aliases[tally.structural]?).join).isSome
  let shown :=
    if aliased || data.visible then 1
    else if child.isLeaf then 0
    else data.visibleChildren
  { summary :=
      { summary with
        padding := if tally.first then data.padding else summary.padding
        size := if tally.first then data.size else summary.size + child.total
        cost := summary.cost + (if data.symbol == skippedSymbol then 0 else child.cost) +
          (if isSkip summary.symbol then skippedCost child else 0)
        dynamic := summary.dynamic + data.dynamic
        visibleDescendants := summary.visibleDescendants + data.visibleDescendants +
          (if aliased || data.visible then 1 else 0)
        visibleChildren := summary.visibleChildren + shown }
    structural := if data.extra then tally.structural else tally.structural + 1
    first := false }

def build (tables : Tables) (symbol : Nat) (children : Array ParseTree)
    (aliases : Array (Option Alias)) (fields : Array (Option String)) : ParseTree :=
  let (visible, named) := symbolShows tables symbol
  let tally := children.foldl Tally.add
    { summary := { symbol, visible, named, aliases, fields } }
  let summary := tally.summary
  let own := if isSkip symbol then
      Cost.standard.recovery + Cost.standard.skippedByte * summary.size.bytes +
        Cost.standard.skippedLine * summary.size.rows
    else 0
  node { summary with cost := summary.cost + own } children.toList

def skipped (tables : Tables) (children : Array ParseTree) : ParseTree :=
  build tables skippedSymbol children #[] #[]

def error (tables : Tables) (children : Array ParseTree) (extra : Bool) : ParseTree :=
  (build tables errorSymbol children #[] #[]).setExtra extra

def ofShape (tables : Tables) (shape : NodeShape) (children : Array ParseTree) : ParseTree :=
  build tables shape.rule children
    (if shape.plain then #[] else shape.aliases) (if shape.plain then #[] else shape.fields)

def addDynamic (weight : Int) : ParseTree → ParseTree
  | node summary children => node { summary with dynamic := summary.dynamic + weight } children

/-- Compares two trees by symbol and number of children, in order from the root. -/
def compareFrom : Nat → List (ParseTree × ParseTree) → Ordering
  | 0, _ => .eq
  | _, [] => .eq
  | fuel + 1, (left, right) :: rest =>
    if left.symbol < right.symbol then .lt
    else if right.symbol < left.symbol then .gt
    else if left.children.length < right.children.length then .lt
    else if right.children.length < left.children.length then .gt
    else compareFrom fuel (left.children.zip right.children ++ rest)

/-- More than the nodes of a tree: each shows, covers text, or groups such nodes. -/
def compareFuel (tree : ParseTree) : Nat :=
  1000 + 64 * (tree.summary.size.bytes + tree.summary.visibleDescendants)

/-- Whether `right` is to replace `left` as a reading of the same text: lower cost wins, then
higher weight, then, between readings without errors, the earlier in the order of symbols. -/
def prefersSecond (left right : ParseTree) : Bool :=
  if right.cost < left.cost then true
  else if left.cost < right.cost then false
  else if left.summary.dynamic < right.summary.dynamic then true
  else if right.summary.dynamic < left.summary.dynamic then false
  else if 0 < left.cost then true
  else compareFrom (compareFuel left) [(left, right)] == .gt

/-- Whether two readings of the same step need not both be kept. -/
def equivalent (left right : ParseTree) : Bool :=
  left.symbol == right.symbol &&
    ((0 < left.cost && 0 < right.cost) ||
      (left.summary.padding.bytes == right.summary.padding.bytes &&
        left.summary.size.bytes == right.summary.size.bytes &&
        left.children.length == right.children.length &&
        left.isExtra == right.isExtra &&
        left.summary.scanState == right.summary.scanState))

def splitExtras (trees : Array ParseTree) : Array ParseTree × Array ParseTree :=
  let kept := trees.popWhile isExtra
  (kept, trees.extract kept.size trees.size)

end ParseTree

end SourceIndex
