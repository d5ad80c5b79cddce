import SourceIndex.Proofs.Extraction.Cuts
import SourceIndex.Proofs.Syntax.Nesting
import SourceIndex.Proofs.Text.Slices

set_option autoImplicit false

namespace SourceIndex

namespace Declaration

/-- Whether one declaration lies within another one. -/
def Encloses (outer inner : Declaration) : Prop :=
  outer.first ≤ inner.first ∧ inner.last ≤ outer.last

/-- Declarations in the order of the text, any two of which lie apart or one in the other one. -/
structure Laminar (found : List Declaration) : Prop where
  /-- Neither offsets nor lines ever go back. -/
  rising : found.Pairwise fun earlier later =>
    earlier.first ≤ later.first ∧ earlier.startLine ≤ later.startLine
  forward : ∀ declaration ∈ found, declaration.startLine ≤ declaration.endLine
  nested : found.Pairwise fun earlier later =>
    earlier.Encloses later ∨ earlier.last ≤ later.first

/-- What holds of every two nodes in the order of the text holds of the declarations. -/
theorem pairwise_ofTree {related : Declaration → Declaration → Prop} (language : Language)
    (tree : Node) (pairwise : tree.preorder.Pairwise fun earlier later =>
      related (ofNode language earlier) (ofNode language later)) :
    (ofTree language tree).Pairwise related := by
  rw [ofTree_eq, List.pairwise_map]
  exact pairwise.filter _

theorem laminar_ofTree (language : Language) (tree : Node) (placed : tree.WellPlaced) :
    Laminar (ofTree language tree) := by
  refine ⟨pairwise_ofTree language tree ?_, ?_, pairwise_ofTree language tree ?_⟩
  · refine (Node.pairwise_preorder tree placed.laidOut).imp_of_mem ?_
    intro earlier later member member' order
    have begins : earlier.data.first.byte ≤ later.data.first.byte := by
      rcases order with around | apart
      · exact around.1
      · exact Nat.le_trans (placed.laidOut earlier member).forward apart
    exact ⟨begins, Nat.succ_le_succ (placed.first_row_le member member' begins)⟩
  · intro declaration member
    obtain ⟨node, inTree, rfl⟩ := node_of_mem_ofTree member
    exact Nat.succ_le_succ (placed.row_le inTree)
  · exact Node.pairwise_preorder tree placed.laidOut

/-- The lines of a declaration that lies in another one are among the lines of that one. -/
theorem Encloses.lines {language : Language} {tree : Node} {outer inner : Declaration}
    (around : outer.Encloses inner) (placed : tree.WellPlaced)
    (member : outer ∈ ofTree language tree) (member' : inner ∈ ofTree language tree) :
    outer.startLine ≤ inner.startLine ∧ inner.endLine ≤ outer.endLine := by
  obtain ⟨node, inTree, rfl⟩ := node_of_mem_ofTree member
  obtain ⟨node', inTree', rfl⟩ := node_of_mem_ofTree member'
  exact ⟨Nat.succ_le_succ (placed.first_row_le inTree inTree' around.1),
    Nat.succ_le_succ (placed.last_row_le inTree' inTree around.2)⟩

end Declaration

namespace Extraction

/-- The code of a chunk stands in that of another one, where the offsets of their declarations say,
and its lines are among the lines of that one. -/
structure Within (inner outer : Declaration × Chunk) : Prop where
  code : Text.sliceBytes? outer.2.code.toList (inner.1.first - outer.1.first)
    (inner.1.last - outer.1.first) = some inner.2.code.toList
  startLine : outer.2.startLine ≤ inner.2.startLine
  endLine : inner.2.endLine ≤ outer.2.endLine

theorem within_of_encloses {language : Language} {path : String} {text : List Char} {tree : Node}
    {outer inner : Declaration × Chunk} (placed : tree.WellPlaced)
    (member : outer ∈ cuts language path text (Declaration.ofTree language tree))
    (member' : inner ∈ cuts language path text (Declaration.ofTree language tree))
    (around : outer.1.Encloses inner.1) : Within inner outer := by
  obtain ⟨listed, index, cut⟩ := cutFor_of_mem_cuts member
  obtain ⟨listed', index', cut'⟩ := cutFor_of_mem_cuts member'
  obtain ⟨start, finish⟩ := around.lines placed listed listed'
  refine ⟨Text.sliceBytes?_within cut.code cut'.code around.1 around.2, ?_, ?_⟩
  · rw [cut.startLine, cut'.startLine]
    exact start
  · rw [cut.endLine, cut'.endLine]
    exact finish

/-- Declarations of a tree that is well placed lie apart or in one another, and so do the chunks of
every text with this tree. -/
theorem laminar_ofText (language : Language) (tree : Node) (placed : tree.WellPlaced) :
    Declaration.Laminar (Declaration.ofTree language tree) ∧
      ∀ (parse : Language → List Char → Node) (tolerant : Bool) (path : String) (text : List Char)
        (extraction : Extraction), parse language (LineEnds.sanitize language text) = tree →
        ofText parse language tolerant path text = .ok extraction →
        (cuts language path text (Declaration.ofTree language tree)).map Prod.snd =
            extraction.chunks ∧
          ∀ outer ∈ cuts language path text (Declaration.ofTree language tree),
          ∀ inner ∈ cuts language path text (Declaration.ofTree language tree),
            outer.1.Encloses inner.1 → Within inner outer := by
  refine ⟨Declaration.laminar_ofTree language tree placed, ?_⟩
  rintro parse tolerant path text extraction rfl success
  rw [ofText_eq_ok success]
  refine ⟨map_snd_cuts _, ?_⟩
  intro outer member inner member' around
  exact within_of_encloses placed member member' around

/-- A class on two lines with one method. -/
def nestedText : List Char := "class A:\n def m(): pass\n".toList

def nestedTree : Node :=
  part "module" ⟨0, 0⟩ ⟨24, 2⟩ [
    part "class_definition" ⟨0, 0⟩ ⟨23, 1⟩ [
      part "identifier" ⟨6, 0⟩ ⟨7, 0⟩ [],
      part "block" ⟨10, 1⟩ ⟨23, 1⟩ [
        part "function_definition" ⟨10, 1⟩ ⟨23, 1⟩ [part "identifier" ⟨14, 1⟩ ⟨15, 1⟩ []]]]]
where
  part (kind : String) (first last : Position) (children : List Node) : Node :=
    .node { kind, named := true, hasError := false, first, last } children

/-- The code of the method begins ten bytes after that of its class. -/
theorem laminar_ofText_nestedText :
    ∃ extraction outer inner,
      ofText (fun _ _ => nestedTree) .python false "a.py" nestedText = .ok extraction ∧
        extraction.chunks = [outer, inner] ∧
        Text.sliceBytes? outer.code.toList 10 23 = some inner.code.toList ∧
        outer.startLine ≤ inner.startLine ∧ inner.endLine ≤ outer.endLine := by
  have placed : nestedTree.WellPlaced := by
    refine ⟨?_, by decide +kernel⟩
    have laid : ∀ node ∈ nestedTree.preorder,
        node.data.first.byte ≤ node.data.last.byte ∧
          (∀ child ∈ node.children, node.data.first.byte ≤ child.data.first.byte ∧
            child.data.last.byte ≤ node.data.last.byte) ∧
          node.children.Pairwise fun child next => child.data.last.byte ≤ next.data.first.byte := by
      decide +kernel
    exact fun node member => ⟨(laid node member).1, (laid node member).2.1, (laid node member).2.2⟩
  obtain ⟨extraction, success⟩ : ∃ extraction,
      ofText (fun _ _ => nestedTree) .python false "a.py" nestedText = .ok extraction := ⟨_, rfl⟩
  obtain ⟨chunks, within⟩ := (laminar_ofText .python nestedTree placed).2 (fun _ _ => nestedTree)
    false "a.py" nestedText extraction rfl success
  have offsets : (cuts .python "a.py" nestedText (Declaration.ofTree .python nestedTree)).map
      (fun cut => (cut.1.first, cut.1.last)) = [(0, 23), (10, 23)] := by decide +kernel
  obtain ⟨outer, rest, both, outerAt, offsets⟩ := List.map_eq_cons_iff.mp offsets
  obtain ⟨inner, others, rfl, innerAt, none⟩ := List.map_eq_cons_iff.mp offsets
  obtain rfl := List.map_eq_nil_iff.mp none
  obtain ⟨outerFirst, outerLast⟩ := Prod.mk.inj outerAt
  obtain ⟨innerFirst, innerLast⟩ := Prod.mk.inj innerAt
  rw [both] at chunks within
  have inside := within outer (by simp) inner (by simp) ⟨by omega, by omega⟩
  refine ⟨extraction, outer.2, inner.2, success, chunks.symm, ?_, inside.startLine, inside.endLine⟩
  have code := inside.code
  rwa [outerFirst, innerFirst, innerLast] at code

end Extraction

end SourceIndex
