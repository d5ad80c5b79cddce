import SourceIndex.Extraction
import SourceIndex.Proofs.Syntax.Preorder

set_option autoImplicit false

namespace SourceIndex

namespace Declaration

theorem ofTree_eq (language : Language) (tree : Node) :
    ofTree language tree = (tree.preorder.filter (qualifies language)).map (ofNode language) := by
  rw [ofTree, Cursor.collect_ofRoot]

theorem node_of_mem_ofTree {language : Language} {tree : Node} {declaration : Declaration}
    (member : declaration ∈ ofTree language tree) :
    ∃ node ∈ tree.preorder, ofNode language node = declaration := by
  rw [ofTree_eq] at member
  obtain ⟨node, kept, same⟩ := List.mem_map.mp member
  exact ⟨node, (List.mem_filter.mp kept).1, same⟩

end Declaration

namespace Extraction

/-- What a chunk has from its declaration and from the number of that. -/
structure CutFor (path : String) (text : List Char) (declaration : Declaration) (index : Nat)
    (chunk : Chunk) : Prop where
  id : chunk.id = Chunk.idOf index
  file : chunk.file = path
  code : Text.sliceBytes? text declaration.first declaration.last = some chunk.code.toList
  startLine : chunk.startLine = declaration.startLine
  endLine : chunk.endLine = declaration.endLine

/-- The chunks of a text, each beside its declaration. -/
def cuts (language : Language) (path : String) (text : List Char) (found : List Declaration) :
    List (Declaration × Chunk) :=
  found.zipIdx.filterMap fun (declaration, index) =>
    (chunk? language path text declaration index).map fun chunk => (declaration, chunk)

variable {language : Language} {path : String} {text : List Char}

theorem cutFor_of_chunk? {declaration : Declaration} {index : Nat} {chunk : Chunk}
    (cut : chunk? language path text declaration index = some chunk) :
    CutFor path text declaration index chunk := by
  rw [chunk?, Option.bind_eq_bind, Option.bind_eq_some_iff] at cut
  obtain ⟨code, sliced, made⟩ := cut
  split at made
  · cases made
  · cases made
    exact ⟨rfl, rfl, by rw [String.toList_ofList]; exact sliced, rfl, rfl⟩

theorem map_snd_cuts (found : List Declaration) :
    (cuts language path text found).map Prod.snd =
      (ofDeclarations language path text found).chunks := by
  rw [cuts, ofDeclarations, List.map_filterMap]
  congr 1
  funext numbered
  rw [Option.map_map]
  exact Option.map_id'

theorem cutFor_of_mem_cuts {found : List Declaration} {cut : Declaration × Chunk}
    (member : cut ∈ cuts language path text found) :
    cut.1 ∈ found ∧ ∃ index, CutFor path text cut.1 index cut.2 := by
  obtain ⟨⟨declaration, index⟩, numbered, made⟩ := List.mem_filterMap.mp member
  obtain ⟨chunk, sliced, rfl⟩ := Option.map_eq_some_iff.mp made
  exact ⟨List.fst_mem_of_mem_zipIdx numbered, index, cutFor_of_chunk? sliced⟩

theorem ofText_eq_ok {parse : Language → List Char → Node} {tolerant : Bool}
    {extraction : Extraction}
    (success : ofText parse language tolerant path text = .ok extraction) :
    extraction = ofDeclarations language path text
      (Declaration.ofTree language (parse language (LineEnds.sanitize language text))) := by
  unfold ofText declarations at success
  split at success
  · cases success
  · cases success
    rfl

end Extraction

end SourceIndex
