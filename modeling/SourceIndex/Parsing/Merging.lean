import SourceIndex.Lexing.Rivalry
import SourceIndex.Parsing.Resolution

/-
Merging states. States with one core become one state unless that changes what is done with a
token, or makes tokens valid side by side of which one can be found in place of the other. Groups
of states are split until no two states of a group have a reason to stay apart.
-/

set_option autoImplicit false

namespace SourceIndex

/-- Groups of states, and the group that each state is in. -/
structure Partition where
  groups : Array (Array Nat)
  groupOf : Array Nat

namespace Partition

/-- Takes from a list of states those that stay apart from one before them that is kept. -/
def separate (apart : Nat → Nat → Bool) : Nat → List Nat → List Nat × List Nat
  | 0, states => (states, [])
  | _, [] => ([], [])
  | fuel + 1, state :: rest =>
    let (away, near) := rest.partition (apart state)
    let (kept, taken) := separate apart fuel near
    (state :: kept, away ++ taken)

/-- The same where those that go with the first state go with each other. -/
def separateFirst (apart : Nat → Nat → Bool) : List Nat → List Nat × List Nat
  | [] => ([], [])
  | state :: rest =>
    let (away, near) := rest.partition (apart state)
    (state :: near, away)

/-- Splits each group in turn, new ones included. Tells whether any was split. -/
def split (parts : Array Nat → List Nat → List Nat × List Nat) :
    Nat → Nat → Partition → Bool → Partition × Bool
  | 0, _, partition, changed => (partition, changed)
  | fuel + 1, index, partition, changed =>
    match partition.groups[index]? with
    | none => (partition, changed)
    | some group =>
      if group.size ≤ 1 then split parts fuel (index + 1) partition changed
      else
        let (kept, taken) := parts partition.groupOf group.toList
        if taken.isEmpty then split parts fuel (index + 1) partition changed
        else
          let number := partition.groups.size
          split parts fuel (index + 1)
            { groups := (partition.groups.set! index kept.toArray).push taken.toArray
              groupOf := taken.foldl (fun groupOf state => groupOf.set! state number)
                partition.groupOf }
            true

def refine (parts : Array Nat → List Nat → List Nat × List Nat) (limit : Nat) :
    Nat → Partition → Partition
  | 0, partition => partition
  | fuel + 1, partition =>
    let (next, changed) := split parts limit 0 partition false
    if changed then refine parts limit fuel next else next

def ofGraph (graph : StateGraph) : Partition :=
  { groups := graph.states.zipIdx.foldl (fun groups (state, number) =>
      groups.modify state.core (·.push number)) (Array.replicate graph.cores.size #[])
    groupOf := graph.states.map (·.core) }

end Partition

/-- The tokens that are valid in a state, those that must not become valid beside them, and those
that are not moved over since a reduction is preferred. -/
structure Profile where
  valid : Nat
  barred : Nat
  givenUp : Nat
deriving Inhabited

/-- What decides which states become one. -/
structure MergeRules where
  tables : Tables
  graph : StateGraph
  rivals : Rivals
  keywords : Nat
  profiles : Array Profile

namespace MergeRules

/-- The tokens with which the text may go on in a state. Where an extra rule ends, the number after
the last token stands for whatever comes. -/
def validTokens (tables : Tables) (graph : StateGraph) (state : GraphState) : Nat :=
  let core := graph.cores.getD state.core default
  let own := core.shiftTokens ||| Resolution.reduceTokens core state.follow
  if own.testBit tables.tokenCount then own
  else graph.extraStarts.foldl (fun set start => set ||| Tables.bit start.1)
    (own ||| tables.extraTokens)

/-- The tokens that must not become valid where those of `valid` are: what a scanner finds, and
lexical tokens that hinder one of `valid`. A word and its keywords do not hinder each other. -/
def barred (tables : Tables) (rivals : Rivals) (keywords : Nat) (valid : Nat) : Nat :=
  let scanned := tables.externals.foldl (fun set symbol => set ||| Tables.bit symbol)
    (Tables.bit tables.tokenCount)
  let lexical := valid &&& tables.lexical
  (Tables.members tables.tokenCount tables.lexical).foldl (fun set token =>
    let exempt :=
      if tables.word == some token then keywords
      else match tables.word with
        | some word => if keywords.testBit token then Tables.bit word else 0
        | none => 0
    let others := lexical ^^^ (lexical &&& exempt)
    if rivals.hinders token &&& others != 0 then set ||| Tables.bit token else set) scanned

def ofGraph (tables : Tables) (graph : StateGraph) (rivals : Rivals) (keywords : Nat)
    (valid : Array Nat) : MergeRules :=
  let barredBy : Std.HashMap Nat Nat := valid.foldl (fun found set =>
    if found.contains set then found
    else found.insert set (barred tables rivals keywords set)) {}
  { tables, graph, rivals, keywords
    profiles := (graph.states.zip valid).map fun (state, set) =>
      { valid := set
        barred := barredBy.getD set 0
        givenUp :=
          Resolution.givenUp tables (graph.cores.getD state.core default) state.follow } }

/-- The tokens that complete different items in two states of one core. -/
def differing (core : Core) (left right : Array Nat) : Nat :=
  core.complete.foldl (fun set position =>
    set ||| (left.getD position 0 ^^^ right.getD position 0)) 0

/-- Whether two states of one core lead to different groups, over tokens or over all symbols. -/
def leadApart (rules : MergeRules) (groupOf : Array Nat) (tokensOnly : Bool)
    (left right : GraphState) (givenUp : Nat) : Bool :=
  let core := rules.graph.cores.getD left.core default
  core.moves.size.any fun index _ =>
    let symbol := core.symbols.getD index 0
    (if symbol < rules.tables.tokenCount then !givenUp.testBit symbol else !tokensOnly) &&
      groupOf.getD (left.targets.getD index 0) 0 != groupOf.getD (right.targets.getD index 0) 0

/-- Whether two states of one core do different things with a token, or would make tokens valid
side by side that must not be. -/
def conflict (rules : MergeRules) (groupOf : Array Nat) (left right : Nat) : Bool :=
  let a := rules.profiles.getD left default
  let b := rules.profiles.getD right default
  if (a.valid ^^^ (a.valid &&& b.valid)) &&& b.barred != 0 then true
  else if (b.valid ^^^ (a.valid &&& b.valid)) &&& a.barred != 0 then true
  else
    let leftState := rules.graph.states.getD left default
    let rightState := rules.graph.states.getD right default
    let core := rules.graph.cores.getD leftState.core default
    let doubtful := differing core leftState.follow rightState.follow &&& a.valid &&& b.valid
    let responsesDiffer := doubtful != 0 &&
      (Tables.members (rules.tables.tokenCount + 1) doubtful).any fun token =>
        Resolution.response rules.tables core leftState.follow token !=
          Resolution.response rules.tables core rightState.follow token
    responsesDiffer || leadApart rules groupOf true leftState rightState a.givenUp

def successorsDiffer (rules : MergeRules) (groupOf : Array Nat) (left right : Nat) : Bool :=
  leadApart rules groupOf false (rules.graph.states.getD left default)
    (rules.graph.states.getD right default) (rules.profiles.getD left default).givenUp

def partition (rules : MergeRules) : Partition :=
  let limit := rules.graph.states.size + 1
  let (coarse, _) := Partition.split
    (fun groupOf states => Partition.separate (conflict rules groupOf) states.length states)
    limit 0 (Partition.ofGraph rules.graph) false
  Partition.refine (fun groupOf => Partition.separateFirst (successorsDiffer rules groupOf))
    limit limit coarse

end MergeRules

end SourceIndex
