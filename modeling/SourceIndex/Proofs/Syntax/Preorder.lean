import SourceIndex.Syntax.Cursor

set_option autoImplicit false

namespace SourceIndex.Cursor

/-- The nodes of the siblings still ahead on the way to the root, nearest first. -/
def pendingAbove : List Crumb → List Node
  | [] => []
  | crumb :: crumbs => Node.preorderAll crumb.later ++ pendingAbove crumbs

/-- The nodes still to be visited, the present one first. -/
def pending (cursor : Cursor) : List Node := cursor.focus.preorder ++ pendingAbove cursor.crumbs

theorem pending_ofRoot (root : Node) : (ofRoot root).pending = root.preorder :=
  List.append_nil _

theorem pending_firstChild {cursor child : Cursor} (moved : cursor.firstChild? = some child) :
    cursor.pending = cursor.focus :: child.pending := by
  obtain ⟨⟨data, children⟩, crumbs⟩ := cursor
  unfold firstChild? at moved
  split at moved
  · contradiction
  · next first later same =>
      cases moved
      simp only [Node.children] at same
      subst same
      simp only [pending, pendingAbove, Node.preorder, Node.preorderAll, List.cons_append,
        List.append_assoc]

theorem pending_of_no_child {cursor : Cursor} (leaf : cursor.firstChild? = none) :
    cursor.pending = cursor.focus :: pendingAbove cursor.crumbs := by
  obtain ⟨⟨data, children⟩, crumbs⟩ := cursor
  unfold firstChild? at leaf
  split at leaf
  · next same =>
      simp only [Node.children] at same
      subst same
      simp only [pending, Node.preorder, Node.preorderAll, List.cons_append, List.nil_append]
  · contradiction

theorem pending_nextSibling {cursor next : Cursor} (moved : cursor.nextSibling? = some next) :
    pendingAbove cursor.crumbs = next.pending := by
  unfold nextSibling? at moved
  split at moved
  · next same =>
      cases moved
      simp only [same, pending, pendingAbove, Node.preorderAll, List.append_assoc]
  · contradiction

theorem pendingAbove_parent {cursor above : Cursor} (last : cursor.nextSibling? = none)
    (moved : cursor.parent? = some above) :
    pendingAbove cursor.crumbs = pendingAbove above.crumbs := by
  obtain ⟨focus, crumbs⟩ := cursor
  cases crumbs with
  | nil => simp [parent?] at moved
  | cons crumb crumbs =>
      obtain ⟨parent, later⟩ := crumb
      cases moved
      cases later with
      | nil => rfl
      | cons sibling later => simp [nextSibling?] at last

theorem pending_afterSubtree {cursor next : Cursor} (moved : cursor.afterSubtree? = some next) :
    pendingAbove cursor.crumbs = next.pending := by
  fun_induction afterSubtree? cursor with
  | case1 cursor sibling sideways =>
      cases moved
      exact pending_nextSibling sideways
  | case2 cursor last above up ih => rw [pendingAbove_parent last up, ih moved]
  | case3 => contradiction

theorem pendingAbove_of_no_move {cursor : Cursor} (stuck : cursor.afterSubtree? = none) :
    pendingAbove cursor.crumbs = [] := by
  fun_induction afterSubtree? cursor with
  | case1 => contradiction
  | case2 cursor last above up ih => rw [pendingAbove_parent last up, ih stuck]
  | case3 cursor last top =>
      unfold parent? at top
      split at top
      · next same => rw [same]; rfl
      · contradiction

theorem collect_eq (test : Node → Bool) (cursor : Cursor) (found : List Node) :
    cursor.collect test found = found.reverse ++ cursor.pending.filter test := by
  fun_induction collect test cursor found with
  | case1 cursor found found' child down ih =>
      rw [ih, pending_firstChild down, List.filter_cons]
      cases passed : test cursor.focus <;> simp [found', passed]
  | case2 cursor found found' leaf next onward ih =>
      rw [ih, pending_of_no_child leaf, pending_afterSubtree onward, List.filter_cons]
      cases passed : test cursor.focus <;> simp [found', passed]
  | case3 cursor found found' leaf stuck =>
      rw [pending_of_no_child leaf, pendingAbove_of_no_move stuck, List.filter_cons]
      cases passed : test cursor.focus <;> simp [found', passed]

/-- Of the nodes of a tree, the walk keeps those that pass the test, in the order of the text. -/
theorem collect_ofRoot (test : Node → Bool) (root : Node) :
    (ofRoot root).collect test [] = root.preorder.filter test := by
  rw [collect_eq, pending_ofRoot, List.reverse_nil, List.nil_append]

end SourceIndex.Cursor
