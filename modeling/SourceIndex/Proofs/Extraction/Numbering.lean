import SourceIndex.Proofs.Extraction.Cuts
import SourceIndex.Proofs.Text.Digits

set_option autoImplicit false

namespace SourceIndex

theorem Text.dropLead?_append (lead rest : String) : dropLead? lead (lead ++ rest) = some rest := by
  rw [dropLead?, String.toList_append, if_pos]
  · rw [← String.length_toList, List.drop_left, String.ofList_toList]
  · exact List.isPrefixOf_iff_prefix.mpr (List.prefix_append _ _)

namespace Chunk

theorem number?_of_id {chunk : Chunk} {number : Nat} (id : chunk.id = idOf number)
    (fits : number < wordBound) : chunk.number? = some number := by
  rw [number?, id, idOf, Text.dropLead?_append, Option.bind_some, wordOf?_toString number fits]

theorem idOf_inj {number other : Nat} : idOf number = idOf other ↔ number = other := by
  constructor
  · intro same
    have digits := congrArg String.toList same
    simp only [idOf, String.toList_append, List.append_cancel_left_eq, Nat.toString_eq_repr,
      Nat.toList_repr] at digits
    -- The digits are read back as the number.
    rw [← Nat.ofDigitChars_ten_toDigits (n := number), digits, Nat.ofDigitChars_ten_toDigits]
  · exact congrArg idOf

/-- The ids of the two chunks are made of numbers, and that of the first is the smaller one. -/
def Precedes (first second : Chunk) : Prop :=
  ∃ number other, first.id = idOf number ∧ second.id = idOf other ∧ number < other

theorem Precedes.id_ne {first second : Chunk} (precedes : first.Precedes second) :
    first.id ≠ second.id := by
  obtain ⟨number, other, firstId, secondId, less⟩ := precedes
  rw [firstId, secondId, ne_eq, idOf_inj]
  exact Nat.ne_of_lt less

end Chunk

/-- Chunks of the file at `path`, in the order of their numbers. -/
structure Extraction.Numbered (path : String) (chunks : List Chunk) : Prop where
  file : ∀ chunk ∈ chunks, chunk.file = path
  rising : chunks.Pairwise Chunk.Precedes

namespace Extraction

theorem numbered_ofDeclarations (language : Language) (path : String) (text : List Char)
    (found : List Declaration) :
    Numbered path (ofDeclarations language path text found).chunks := by
  rw [ofDeclarations]
  constructor
  · intro chunk member
    obtain ⟨⟨declaration, index⟩, -, cut⟩ := List.mem_filterMap.mp member
    exact (cutFor_of_chunk? cut).file
  · rw [List.pairwise_filterMap]
    have indices : found.zipIdx.Pairwise fun first second => first.2 < second.2 := by
      rw [← List.pairwise_map, List.zipIdx_map_snd]
      exact List.pairwise_lt_range' 1
    refine indices.imp ?_
    intro first second less chunk cut chunk' cut'
    exact ⟨first.2, second.2, (cutFor_of_chunk? cut).id, (cutFor_of_chunk? cut').id, less⟩

end Extraction

end SourceIndex
