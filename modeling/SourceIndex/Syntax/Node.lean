set_option autoImplicit false

namespace SourceIndex

/-- A place in a text: the offset in bytes and the number of line feeds before it. -/
structure Position where
  byte : Nat
  row : Nat
deriving BEq, DecidableEq, Inhabited

inductive NodeStatus where
  | plain
  /-- Text that fits no rule. -/
  | error
  /-- A token that the rules require and the text lacks. -/
  | missing
deriving BEq, DecidableEq, Inhabited

structure NodeData where
  kind : String
  named : Bool
  status : NodeStatus := .plain
  /-- An error lies in or at this node. -/
  hasError : Bool
  first : Position
  last : Position
  /-- The fields of the parent that this node fills. -/
  labels : List String := []
deriving BEq, DecidableEq, Inhabited

inductive Node where
  | node (data : NodeData) (children : List Node)
deriving Inhabited

namespace Node

def data : Node → NodeData
  | node data _ => data

def children : Node → List Node
  | node _ children => children

def child? (tree : Node) (label : String) : Option Node :=
  tree.children.find? fun child => child.data.labels.contains label

end Node

end SourceIndex
