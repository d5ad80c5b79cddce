import SourceIndex.Proofs.Syntax.Places

set_option autoImplicit false

namespace SourceIndex

namespace Node

/-- Whether a node is text that fits no rule, or a token that the text lacks. -/
def isFaulty (node : Node) : Bool := node.data.status != .plain

theorem isFaulty_eq_false_iff (node : Node) :
    node.isFaulty = false ↔ node.data.status = .plain := by
  rw [isFaulty]
  cases node.data.status <;> decide

/-- A node in or at which a fault lies is marked. Other nodes may be marked as well. -/
def Marked (node : Node) : Prop :=
  (∃ inner ∈ node.preorder, inner.isFaulty = true) → node.data.hasError = true

/-- Every node of a tree in or at which a fault lies is marked. -/
def MarksFaults (tree : Node) : Prop := ∀ node ∈ tree.preorder, node.Marked

theorem self_mem_preorder (tree : Node) : tree ∈ tree.preorder := by
  cases tree with
  | node data children =>
      rw [preorder]
      exact List.mem_cons_self

theorem find?_preorder_of_unmarked (node : Node) (marked : node.Marked)
    (unmarked : node.data.hasError = false) : node.preorder.find? isFaulty = none := by
  rw [List.find?_eq_none]
  intro inner member faulty
  rw [marked ⟨inner, member, faulty⟩] at unmarked
  cases unmarked

end Node

namespace Cursor

theorem head?_pending (cursor : Cursor) : ∃ later, cursor.pending = cursor.focus :: later := by
  cases below : cursor.firstChild? with
  | some child => exact ⟨_, pending_firstChild below⟩
  | none => exact ⟨_, pending_of_no_child below⟩

theorem find?_pending_of_unmarked (cursor : Cursor) (marked : ∀ node ∈ cursor.pending, node.Marked)
    (unmarked : ¬ cursor.focus.data.hasError = true) :
    cursor.pending.find? Node.isFaulty = (pendingAbove cursor.crumbs).find? Node.isFaulty := by
  have focused : cursor.focus ∈ cursor.pending :=
    List.mem_append_left _ cursor.focus.self_mem_preorder
  have none := cursor.focus.find?_preorder_of_unmarked (marked _ focused)
    (Bool.eq_false_iff.mpr unmarked)
  rw [pending, List.find?_append, none, Option.none_or]

/-- The search gives the first fault of all the nodes that are still to be visited, also of those
that it does not visit. -/
theorem firstFault?_eq_find? (cursor : Cursor) (marked : ∀ node ∈ cursor.pending, node.Marked) :
    cursor.firstFault? = cursor.pending.find? Node.isFaulty := by
  fun_induction firstFault? cursor with
  | case1 cursor faulty =>
      obtain ⟨later, first⟩ := cursor.head?_pending
      have stops : cursor.focus.isFaulty = true := faulty
      rw [first, List.find?_cons_of_pos stops]
  | case2 cursor sound error child down ih =>
      have passes : ¬ cursor.focus.isFaulty = true := sound
      rw [pending_firstChild down] at marked ⊢
      rw [List.find?_cons_of_neg passes]
      exact ih fun node member => marked node (List.mem_cons_of_mem _ member)
  | case3 cursor sound error leaf next onward ih =>
      have passes : ¬ cursor.focus.isFaulty = true := sound
      rw [pending_of_no_child leaf, pending_afterSubtree onward] at marked ⊢
      rw [List.find?_cons_of_neg passes]
      exact ih fun node member => marked node (List.mem_cons_of_mem _ member)
  | case4 cursor sound error leaf stuck =>
      have passes : ¬ cursor.focus.isFaulty = true := sound
      rw [pending_of_no_child leaf, pendingAbove_of_no_move stuck, List.find?_cons_of_neg passes,
        List.find?_nil]
  | case5 cursor sound unmarked next onward ih =>
      rw [find?_pending_of_unmarked cursor marked unmarked, pending_afterSubtree onward]
      refine ih fun node member => marked node ?_
      rw [pending, pending_afterSubtree onward]
      exact List.mem_append_right _ member
  | case6 cursor sound unmarked stuck =>
      rw [find?_pending_of_unmarked cursor marked unmarked, pendingAbove_of_no_move stuck,
        List.find?_nil]

theorem firstFault?_ofRoot (tree : Node) (marks : tree.MarksFaults) :
    (ofRoot tree).firstFault? = tree.preorder.find? Node.isFaulty := by
  have marked : ∀ node ∈ (ofRoot tree).pending, node.Marked := by
    rw [pending_ofRoot]
    exact marks
  rw [firstFault?_eq_find? _ marked, pending_ofRoot]

end Cursor

namespace Node

/-- At the place stands a fault, and at no place before it. -/
structure FirstFault (tree : Node) (place : NodePlace) (fault : Node) : Prop where
  present : tree.at? place = some fault
  faulty : fault.isFaulty = true
  first : ∀ other node, tree.at? other = some node → node.isFaulty = true →
    place = other ∨ place < other

/-- The first fault in the order of the text is the one that stands before all others. -/
theorem firstFault_of_find? (tree fault : Node)
    (found : tree.preorder.find? isFaulty = some fault) :
    ∃ place, tree.FirstFault place fault := by
  rw [← map_snd_located, List.find?_map, Option.map_eq_some_iff] at found
  obtain ⟨⟨place, node⟩, found, rfl⟩ := found
  obtain ⟨faulty, before, after, parts, sound⟩ := List.find?_eq_some_iff_append.mp found
  have sorted := tree.pairwise_located
  rw [parts] at sorted
  refine ⟨place, ?_, faulty, ?_⟩
  · rw [← mem_located, parts]
    exact List.mem_append_right _ List.mem_cons_self
  · intro other inner present wrong
    have member := (mem_located tree other inner).mpr present
    rw [parts, List.mem_append, List.mem_cons] at member
    rcases member with earlier | same | later
    · have right := sound _ earlier
      rw [Function.comp_apply, wrong] at right
      cases right
    · exact .inl (Prod.mk.inj same).1.symm
    · have behind := List.pairwise_cons.mp (List.pairwise_append.mp sorted).2.1
      exact .inr (behind.1 _ later)

end Node

theorem SyntaxFault.ofTree_of_firstFault? (tree fault : Node)
    (found : (Cursor.ofRoot tree).firstFault? = some fault) :
    SyntaxFault.ofTree tree = ⟨fault.data.first.row + 1⟩ := by
  rw [SyntaxFault.ofTree, found]

/-- If every node in or at which a fault lies is marked, the search finds the first fault of a tree,
or none just if there is none. A text that has a fault and is read without tolerance is refused for
the line on which the first one begins. -/
theorem SyntaxFault.ofText_refused (tree : Node) (marks : tree.MarksFaults) :
    (Cursor.ofRoot tree).firstFault? = tree.preorder.find? Node.isFaulty ∧
      ((Cursor.ofRoot tree).firstFault? = none ↔
        ∀ node ∈ tree.preorder, node.data.status = .plain) ∧
      ((∃ node ∈ tree.preorder, node.isFaulty = true) →
        ∃ fault, (Cursor.ofRoot tree).firstFault? = some fault ∧
          (∃ place, tree.FirstFault place fault) ∧
          ∀ (parse : Language → List Char → Node) (language : Language) (path : String)
            (text : List Char), parse language (LineEnds.sanitize language text) = tree →
            ∃ refusal, Extraction.ofText parse language false path text = .error refusal ∧
              refusal.message =
                "syntax error near line " ++ toString (fault.data.first.row + 1)) := by
  have search := Cursor.firstFault?_ofRoot tree marks
  refine ⟨search, ?_, ?_⟩
  · rw [search, List.find?_eq_none]
    simp only [Bool.not_eq_true, Node.isFaulty_eq_false_iff]
  · intro faulty
    obtain ⟨fault, found⟩ := Option.isSome_iff_exists.mp (List.find?_isSome.mpr faulty)
    refine ⟨fault, search.trans found, tree.firstFault_of_find? fault found, ?_⟩
    rintro parse language path text rfl
    have marked := marks _ (Node.self_mem_preorder _) faulty
    have line := SyntaxFault.ofTree_of_firstFault? _ fault (search.trans found)
    refine ⟨⟨fault.data.first.row + 1⟩, ?_, rfl⟩
    simp only [Extraction.ofText, declarations, marked, line, Bool.not_false, Bool.and_self,
      ↓reduceIte]
    rfl

private def fragment (kind : String) (status : NodeStatus) (hasError : Bool) (row : Nat)
    (children : List Node) : Node :=
  .node { kind, named := true, status, hasError, first := ⟨10 * row, row⟩, last := ⟨10 * row, row⟩ }
    children

/-- A tree with four parts: one without faults, one that is marked without one, one that lacks a
token on its fourth line, and text that fits no rule. -/
def laterFaults : Node :=
  fragment "module" .plain true 0 [
    fragment "block" .plain false 0 [fragment "pass_statement" .plain false 0 []],
    fragment "block" .plain true 1 [fragment "pass_statement" .plain true 1 []],
    fragment "block" .plain true 2 [
      fragment "identifier" .plain false 2 [], fragment ":" .missing true 3 []],
    fragment "ERROR" .error true 4 [fragment "identifier" .plain false 4 []]]

theorem SyntaxFault.ofText_refused_laterFaults :
    (∃ place fault, laterFaults.FirstFault place fault ∧ fault.data.kind = ":") ∧
      ∃ refusal, Extraction.ofText (fun _ _ => laterFaults) .python false "f.py" [] =
        .error refusal ∧ refusal.message = "syntax error near line 4" := by
  have marks : laterFaults.MarksFaults := by
    unfold Node.MarksFaults Node.Marked
    decide +kernel
  have faulty : ∃ node ∈ laterFaults.preorder, node.isFaulty = true := by decide +kernel
  have missing : laterFaults.preorder.find? Node.isFaulty =
      some (fragment ":" .missing true 3 []) := rfl
  obtain ⟨search, -, refused⟩ := SyntaxFault.ofText_refused laterFaults marks
  obtain ⟨fault, found, ⟨place, first⟩, refusal⟩ := refused faulty
  rw [search, missing, Option.some.injEq] at found
  subst found
  exact ⟨⟨place, _, first, rfl⟩, refusal _ .python "f.py" [] rfl⟩

end SourceIndex
