import SourceIndex.Syntax.Node

set_option autoImplicit false

namespace SourceIndex

mutual

def Node.count : Node → Nat
  | .node _ children => Node.countAll children + 1

def Node.countAll : List Node → Nat
  | [] => 0
  | tree :: later => tree.count + Node.countAll later

end

mutual

/-- The nodes of a tree in the order of the text, each before its children. -/
def Node.preorder : Node → List Node
  | .node data children => .node data children :: Node.preorderAll children

def Node.preorderAll : List Node → List Node
  | [] => []
  | tree :: later => tree.preorder ++ Node.preorderAll later

end

/-- A step of the way down: the node that was left and the siblings after the one entered. -/
structure Crumb where
  parent : Node
  later : List Node

/-- A node with the way to it from the root, the last step first. -/
structure Cursor where
  focus : Node
  crumbs : List Crumb

namespace Cursor

def ofRoot (root : Node) : Cursor := ⟨root, []⟩

def firstChild? (cursor : Cursor) : Option Cursor :=
  match cursor.focus.children with
  | [] => none
  | child :: later => some ⟨child, ⟨cursor.focus, later⟩ :: cursor.crumbs⟩

def nextSibling? (cursor : Cursor) : Option Cursor :=
  match cursor.crumbs with
  | ⟨parent, sibling :: later⟩ :: crumbs => some ⟨sibling, ⟨parent, later⟩ :: crumbs⟩
  | _ => none

def parent? (cursor : Cursor) : Option Cursor :=
  match cursor.crumbs with
  | [] => none
  | crumb :: crumbs => some ⟨crumb.parent, crumbs⟩

theorem length_crumbs_of_parent? {cursor above : Cursor} (h : cursor.parent? = some above) :
    above.crumbs.length < cursor.crumbs.length := by
  unfold parent? at h
  split at h
  · contradiction
  · next heq => cases h; simp [heq]

/-- To the next sibling of the node, or of the nearest node above it that has one. -/
def afterSubtree? (cursor : Cursor) : Option Cursor :=
  match cursor.nextSibling? with
  | some next => some next
  | none =>
    match _h : cursor.parent? with
    | some above => above.afterSubtree?
    | none => none
termination_by cursor.crumbs.length
decreasing_by exact length_crumbs_of_parent? _h

/-- The nodes of the siblings still ahead on the way to the root. -/
def ahead : List Crumb → Nat
  | [] => 0
  | crumb :: crumbs => Node.countAll crumb.later + ahead crumbs

/-- The number of nodes not yet passed, the present one included. -/
def remaining (cursor : Cursor) : Nat := cursor.focus.count + ahead cursor.crumbs

theorem one_le_count (tree : Node) : 1 ≤ tree.count := by
  cases tree; simp [Node.count]

theorem remaining_nextSibling {cursor next : Cursor} (h : cursor.nextSibling? = some next) :
    next.remaining = ahead cursor.crumbs := by
  unfold nextSibling? at h
  split at h
  · next heq => cases h; simp [remaining, ahead, heq, Node.countAll, Nat.add_assoc]
  · contradiction

theorem ahead_parent_le {cursor above : Cursor} (h : cursor.parent? = some above) :
    ahead above.crumbs ≤ ahead cursor.crumbs := by
  unfold parent? at h
  split at h
  · contradiction
  · next heq => cases h; simp [ahead, heq]

theorem remaining_afterSubtree {cursor next : Cursor} (h : cursor.afterSubtree? = some next) :
    next.remaining ≤ ahead cursor.crumbs := by
  fun_induction afterSubtree? cursor with
  | case1 cursor sibling hs => cases h; exact Nat.le_of_eq (remaining_nextSibling hs)
  | case2 cursor hs above hp ih => exact Nat.le_trans (ih h) (ahead_parent_le hp)
  | case3 => contradiction

theorem remaining_firstChild {cursor child : Cursor} (h : cursor.firstChild? = some child) :
    child.remaining < cursor.remaining := by
  unfold firstChild? at h
  split at h
  · contradiction
  · next first later heq =>
    cases h
    obtain ⟨⟨data, children⟩, crumbs⟩ := cursor
    simp only [Node.children] at heq
    subst heq
    simp only [remaining, ahead, Node.count, Node.countAll]
    omega

theorem remaining_afterSubtree_lt {cursor next : Cursor}
    (h : cursor.afterSubtree? = some next) : next.remaining < cursor.remaining := by
  have bound := remaining_afterSubtree h
  have positive := one_le_count cursor.focus
  simp only [remaining] at *
  omega

/-- The nodes from the present one on that pass the test, in the order of the text, put behind
`found`, which is backwards. -/
def collect (test : Node → Bool) (cursor : Cursor) (found : List Node) : List Node :=
  let found := if test cursor.focus then cursor.focus :: found else found
  match _h : cursor.firstChild? with
  | some child => collect test child found
  | none =>
    match _h : cursor.afterSubtree? with
    | some next => collect test next found
    | none => found.reverse
termination_by cursor.remaining
decreasing_by
  · exact remaining_firstChild _h
  · exact remaining_afterSubtree_lt _h

/-- The first node from the present one on that is wrong or missing. Below a node without errors
none is sought. -/
def firstFault? (cursor : Cursor) : Option Node :=
  if cursor.focus.data.status != .plain then some cursor.focus
  else if cursor.focus.data.hasError then
    match _h : cursor.firstChild? with
    | some child => firstFault? child
    | none =>
      match _h : cursor.afterSubtree? with
      | some next => firstFault? next
      | none => none
  else
    match _h : cursor.afterSubtree? with
    | some next => firstFault? next
    | none => none
termination_by cursor.remaining
decreasing_by
  · exact remaining_firstChild _h
  · exact remaining_afterSubtree_lt _h
  · exact remaining_afterSubtree_lt _h

end Cursor

end SourceIndex
