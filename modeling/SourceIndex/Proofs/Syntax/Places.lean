import SourceIndex.Extraction
import SourceIndex.Proofs.Syntax.Preorder

/-
A place is the way to a node from the root, and the order of the text is that of the places as
words: a node stands before what lies in it, and before all that lies in the siblings after it.
-/

set_option autoImplicit false

namespace SourceIndex

/-- The numbers of the children on the way from a tree to a node in it. -/
abbrev NodePlace := List Nat

namespace Node

def at? : Node → NodePlace → Option Node
  | tree, [] => some tree
  | tree, number :: place => (tree.children[number]?).bind (at? · place)

mutual

/-- The nodes of a tree with their places, in the order of the text. -/
def located : Node → List (NodePlace × Node)
  | .node data children => ([], .node data children) :: locatedAll 0 children

/-- The nodes of siblings with their places below the parent; the siblings are numbered from
`number`. -/
def locatedAll (number : Nat) : List Node → List (NodePlace × Node)
  | [] => []
  | tree :: later =>
    tree.located.map (Prod.map (number :: ·) id) ++ locatedAll (number + 1) later

end

mutual

/-- Without their places, the nodes are those that the cursor goes over. -/
theorem map_snd_located (tree : Node) : tree.located.map Prod.snd = tree.preorder := by
  match tree with
  | .node data children =>
      rw [located, preorder, List.map_cons, map_snd_locatedAll 0 children]

theorem map_snd_locatedAll (number : Nat) (trees : List Node) :
    (locatedAll number trees).map Prod.snd = preorderAll trees := by
  match trees with
  | [] => rw [locatedAll, preorderAll, List.map_nil]
  | tree :: later =>
      have same : Prod.snd ∘ Prod.map (number :: ·) id = (Prod.snd : NodePlace × Node → Node) := rfl
      rw [locatedAll, preorderAll, List.map_append, List.map_map, same, map_snd_located tree,
        map_snd_locatedAll (number + 1) later]

end

mutual

theorem mem_located (tree : Node) (place : NodePlace) (found : Node) :
    (place, found) ∈ tree.located ↔ tree.at? place = some found := by
  match tree with
  | .node data children =>
      rw [located, List.mem_cons, mem_locatedAll 0 children]
      cases place with
      | nil =>
          simp only [at?, Prod.mk.injEq, true_and, Option.some.injEq, reduceCtorEq, false_and,
            exists_false, or_false]
          exact eq_comm
      | cons number rest =>
          simp only [at?, Node.children, Prod.mk.injEq, reduceCtorEq, false_and, false_or,
            Nat.zero_add, List.cons.injEq, Option.bind_eq_some_iff]
          constructor
          · rintro ⟨_, _, child, ⟨rfl, rfl⟩, present, inside⟩
            exact ⟨child, present, inside⟩
          · rintro ⟨child, present, inside⟩
            exact ⟨number, rest, child, ⟨rfl, rfl⟩, present, inside⟩

theorem mem_locatedAll (number : Nat) (trees : List Node) (place : NodePlace) (found : Node) :
    (place, found) ∈ locatedAll number trees ↔
      ∃ index rest tree, place = (number + index) :: rest ∧ trees[index]? = some tree ∧
        tree.at? rest = some found := by
  match trees with
  | [] => simp only [locatedAll, List.not_mem_nil, List.getElem?_nil, reduceCtorEq, false_and,
      and_false, exists_false]
  | tree :: later =>
      rw [locatedAll, List.mem_append, mem_locatedAll (number + 1) later, List.mem_map]
      constructor
      · rintro (⟨⟨rest, inner⟩, member, same⟩ | ⟨index, rest, other, rfl, present, inside⟩)
        · obtain ⟨rfl, rfl⟩ := Prod.mk.inj same
          exact ⟨0, rest, tree, rfl, rfl, (mem_located tree rest inner).mp member⟩
        · refine ⟨index + 1, rest, other, ?_, present, inside⟩
          rw [Nat.add_right_comm, Nat.add_assoc]
      · rintro ⟨_ | index, rest, other, rfl, present, inside⟩
        · obtain rfl : tree = other := Option.some.inj present
          exact .inl ⟨(rest, found), (mem_located tree rest found).mpr inside, rfl⟩
        · refine .inr ⟨index, rest, other, ?_, present, inside⟩
          rw [Nat.add_right_comm, Nat.add_assoc]

end

mutual

/-- The order of the text is that of the places, so no place is met twice. -/
theorem pairwise_located (tree : Node) :
    tree.located.Pairwise fun first later => first.1 < later.1 := by
  match tree with
  | .node data children =>
      rw [located]
      refine List.pairwise_cons.mpr ⟨?_, pairwise_locatedAll 0 children⟩
      intro ⟨place, found⟩ member
      obtain ⟨index, rest, _, rfl, -⟩ := (mem_locatedAll 0 children place found).mp member
      exact List.nil_lt_cons _ _

theorem pairwise_locatedAll (number : Nat) (trees : List Node) :
    (locatedAll number trees).Pairwise fun first later => first.1 < later.1 := by
  match trees with
  | [] =>
      rw [locatedAll]
      exact .nil
  | tree :: later =>
      rw [locatedAll]
      refine List.pairwise_append.mpr ⟨?_, pairwise_locatedAll (number + 1) later, ?_⟩
      · rw [List.pairwise_map]
        refine (pairwise_located tree).imp ?_
        intro first second less
        exact List.cons_lt_cons_iff.mpr (.inr ⟨rfl, less⟩)
      · intro first inTree ⟨place, found⟩ inLater
        obtain ⟨_, -, rfl⟩ := List.mem_map.mp inTree
        obtain ⟨index, rest, _, rfl, -⟩ := (mem_locatedAll _ later place found).mp inLater
        exact List.cons_lt_cons_iff.mpr (.inl (by omega))

end

end Node

namespace Declaration

/-- The nodes of a tree that become chunks, with their places. -/
def placed (language : Language) (tree : Node) : List (NodePlace × Node) :=
  tree.located.filter fun node => qualifies language node.2

theorem collect_eq_placed (language : Language) (tree : Node) :
    (Cursor.ofRoot tree).collect (qualifies language) [] =
      (placed language tree).map Prod.snd := by
  rw [Cursor.collect_ofRoot, ← Node.map_snd_located, List.filter_map]
  rfl

/-- The walk of a cursor over a tree gives the named nodes of a chunkable kind, as a filter of the
recursive listing would: at every place at which such a node stands it gives that node, once, and
the places rise. -/
theorem collect_listed (language : Language) (tree : Node) :
    (Cursor.ofRoot tree).collect (qualifies language) [] =
        tree.preorder.filter (fun node => node.data.named && language.isChunkable node.data.kind) ∧
      ∃ found : List (NodePlace × Node),
        (Cursor.ofRoot tree).collect (qualifies language) [] = found.map Prod.snd ∧
        found.Pairwise (fun first later => first.1 < later.1) ∧
        (∀ place node, (place, node) ∈ found ↔ tree.at? place = some node ∧
          node.data.named = true ∧ node.data.kind ∈ language.chunkableKinds) ∧
        ofTree language tree = found.map fun node => ofNode language node.2 := by
  refine ⟨Cursor.collect_ofRoot _ tree, placed language tree, collect_eq_placed language tree,
    ?_, ?_, ?_⟩
  · exact (Node.pairwise_located tree).filter _
  · intro place node
    rw [placed, List.mem_filter, Node.mem_located]
    simp only [qualifies, Language.isChunkable, Bool.and_eq_true, List.contains_iff_mem]
  · rw [ofTree, collect_eq_placed, List.map_map]
    rfl

end Declaration

end SourceIndex
