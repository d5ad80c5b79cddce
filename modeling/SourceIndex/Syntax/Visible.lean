import SourceIndex.Parsing.ParseTree
import SourceIndex.Syntax.Node

set_option autoImplicit false

namespace SourceIndex.ParseTree

def Position.plus (position : Position) (extent : Extent) : Position :=
  ⟨position.byte + extent.bytes, position.row + extent.rows⟩

/-- The kind under which a tree shows and whether it is named; none if it is hidden. -/
def shownAs (tables : Tables) (summary : Summary) (aliased : Option Alias) :
    Option (String × Bool) :=
  match aliased with
  | some otherName => some (otherName.name, otherName.named)
  | none =>
    if summary.symbol == errorSymbol then some ("ERROR", true)
    else if summary.visible then
      some (((tables.symbols[summary.symbol]?).map (·.name)).getD "", summary.named)
    else none

def statusOf (summary : Summary) : NodeStatus :=
  if summary.symbol == errorSymbol then .error
  else if summary.missing then .missing
  else .plain

mutual
/-- The nodes that a tree shows, where `start` is the place before its padding. -/
def nodes (tables : Tables) (tree : ParseTree) (aliased : Option Alias) (labels : List String)
    (start : Position) : List Node :=
  match tree with
  | .node summary children =>
    let first := Position.plus start summary.padding
    match shownAs tables summary aliased with
    | some (kind, named) =>
      [.node
        { kind, named, labels
          status := statusOf summary
          hasError := summary.missing || 0 < summary.cost
          first
          last := Position.plus first summary.size }
        (childNodes tables summary children 0 [] start)]
    | none => childNodes tables summary children 0 labels start

/-- The nodes of a list of children, of which `structural` that are not extra came before. -/
def childNodes (tables : Tables) (parent : Summary) (children : List ParseTree)
    (structural : Nat) (labels : List String) (start : Position) : List Node :=
  match children with
  | [] => []
  | child :: rest =>
    let data := child.summary
    let next := Position.plus start child.total
    if data.extra then
      nodes tables child none [] start ++ childNodes tables parent rest structural labels next
    else
      let own := match (parent.fields[structural]?).join with
        | some field => field :: labels
        | none => labels
      nodes tables child (parent.aliases[structural]?).join own start ++
        childNodes tables parent rest (structural + 1) labels next
end

def toNode (tables : Tables) (tree : ParseTree) : Node :=
  match nodes tables tree none [] ⟨0, 0⟩ with
  | root :: _ => root
  | [] => default

end SourceIndex.ParseTree
