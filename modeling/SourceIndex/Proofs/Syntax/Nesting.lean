import SourceIndex.Proofs.Syntax.Faults

set_option autoImplicit false

namespace SourceIndex.Node

/-- Whether one node lies within another one. -/
def Encloses (outer inner : Node) : Prop :=
  outer.data.first.byte ≤ inner.data.first.byte ∧ inner.data.last.byte ≤ outer.data.last.byte

/-- A node that ends no sooner than it begins, with its children within it, one after the other. -/
structure LaidOut (node : Node) : Prop where
  forward : node.data.first.byte ≤ node.data.last.byte
  inside : ∀ child ∈ node.children, node.Encloses child
  apart : node.children.Pairwise fun child next => child.data.last.byte ≤ next.data.first.byte

/-- The positions at which the nodes of a tree begin and end. -/
def positions (tree : Node) : List Position :=
  tree.preorder.flatMap fun node => [node.data.first, node.data.last]

/-- A tree all of whose nodes are laid out, and whose rows grow with the offsets. -/
structure WellPlaced (tree : Node) : Prop where
  laidOut : ∀ node ∈ tree.preorder, node.LaidOut
  rows : ∀ position ∈ tree.positions, ∀ other ∈ tree.positions,
    position.byte ≤ other.byte → position.row ≤ other.row

theorem Encloses.refl (node : Node) : node.Encloses node := ⟨Nat.le_refl _, Nat.le_refl _⟩

theorem Encloses.trans {outer middle inner : Node} (first : outer.Encloses middle)
    (second : middle.Encloses inner) : outer.Encloses inner :=
  ⟨Nat.le_trans first.1 second.1, Nat.le_trans second.2 first.2⟩

mutual

theorem encloses_of_mem_preorder (tree : Node) (laid : ∀ node ∈ tree.preorder, node.LaidOut)
    (inner : Node) (member : inner ∈ tree.preorder) : tree.Encloses inner := by
  match tree with
  | .node data children =>
      have root := laid _ (self_mem_preorder _)
      rw [preorder, List.mem_cons] at member
      rcases member with rfl | below
      · exact .refl _
      · rw [preorder, List.forall_mem_cons] at laid
        obtain ⟨child, among, around⟩ := encloses_of_mem_preorderAll children laid.2 inner below
        exact (root.inside child among).trans around

theorem encloses_of_mem_preorderAll (trees : List Node)
    (laid : ∀ node ∈ preorderAll trees, node.LaidOut) (inner : Node)
    (member : inner ∈ preorderAll trees) : ∃ tree ∈ trees, tree.Encloses inner := by
  match trees with
  | [] =>
      rw [preorderAll] at member
      cases member
  | tree :: later =>
      rw [preorderAll, List.forall_mem_append] at laid
      rw [preorderAll, List.mem_append] at member
      rcases member with first | rest
      · exact ⟨tree, List.mem_cons_self, encloses_of_mem_preorder tree laid.1 inner first⟩
      · obtain ⟨other, among, around⟩ := encloses_of_mem_preorderAll later laid.2 inner rest
        exact ⟨other, List.mem_cons_of_mem tree among, around⟩

end

mutual

theorem pairwise_preorder (tree : Node) (laid : ∀ node ∈ tree.preorder, node.LaidOut) :
    tree.preorder.Pairwise fun earlier later =>
      earlier.Encloses later ∨ earlier.data.last.byte ≤ later.data.first.byte := by
  match tree with
  | .node data children =>
      have root := laid _ (self_mem_preorder _)
      have around := encloses_of_mem_preorder _ laid
      rw [preorder, List.forall_mem_cons] at laid
      rw [preorder] at around ⊢
      refine List.pairwise_cons.mpr ⟨?_, pairwise_preorderAll children laid.2 root.apart⟩
      exact fun inner member => .inl (around inner (List.mem_cons_of_mem _ member))

theorem pairwise_preorderAll (trees : List Node)
    (laid : ∀ node ∈ preorderAll trees, node.LaidOut)
    (apart : trees.Pairwise fun child next => child.data.last.byte ≤ next.data.first.byte) :
    (preorderAll trees).Pairwise fun earlier later =>
      earlier.Encloses later ∨ earlier.data.last.byte ≤ later.data.first.byte := by
  match trees with
  | [] =>
      rw [preorderAll]
      exact .nil
  | tree :: later =>
      rw [preorderAll, List.forall_mem_append] at laid
      obtain ⟨before, among⟩ := List.pairwise_cons.mp apart
      rw [preorderAll]
      refine List.pairwise_append.mpr ⟨pairwise_preorder tree laid.1,
        pairwise_preorderAll later laid.2 among, ?_⟩
      intro first inTree second inLater
      -- What lies in one sibling ends before what lies in a later one begins.
      have around := encloses_of_mem_preorder tree laid.1 first inTree
      obtain ⟨sibling, listed, around'⟩ := encloses_of_mem_preorderAll later laid.2 second inLater
      exact .inr (Nat.le_trans around.2 (Nat.le_trans (before sibling listed) around'.1))

end

namespace WellPlaced

variable {tree node other : Node}

theorem first_mem_positions (member : node ∈ tree.preorder) : node.data.first ∈ tree.positions :=
  List.mem_flatMap.mpr ⟨node, member, List.mem_cons_self⟩

theorem last_mem_positions (member : node ∈ tree.preorder) : node.data.last ∈ tree.positions :=
  List.mem_flatMap.mpr ⟨node, member, List.mem_cons_of_mem _ List.mem_cons_self⟩

theorem first_row_le (placed : tree.WellPlaced) (member : node ∈ tree.preorder)
    (member' : other ∈ tree.preorder) (before : node.data.first.byte ≤ other.data.first.byte) :
    node.data.first.row ≤ other.data.first.row :=
  placed.rows _ (first_mem_positions member) _ (first_mem_positions member') before

theorem last_row_le (placed : tree.WellPlaced) (member : node ∈ tree.preorder)
    (member' : other ∈ tree.preorder) (before : node.data.last.byte ≤ other.data.last.byte) :
    node.data.last.row ≤ other.data.last.row :=
  placed.rows _ (last_mem_positions member) _ (last_mem_positions member') before

theorem row_le (placed : tree.WellPlaced) (member : node ∈ tree.preorder) :
    node.data.first.row ≤ node.data.last.row :=
  placed.rows _ (first_mem_positions member) _ (last_mem_positions member)
    (placed.laidOut node member).forward

end WellPlaced

end SourceIndex.Node
