import SourceIndex.Text.Lossy

set_option autoImplicit false

namespace SourceIndex.Text

@[simp] theorem utf8_nil : utf8 [] = [] := rfl

theorem utf8_cons (c : Char) (text : List Char) :
    utf8 (c :: text) = String.utf8EncodeChar c ++ utf8 text := List.flatMap_cons

theorem utf8_append (first second : List Char) :
    utf8 (first ++ second) = utf8 first ++ utf8 second := List.flatMap_append

theorem encode_ofList (text : List Char) : encode (String.ofList text) = utf8 text := by
  rw [encode, String.toList_ofList]

theorem encode_eq_utf8 (text : String) : encode text = utf8 text.toList := rfl

theorem encode_injective (first second : String) (same : encode first = encode second) :
    first = second := by
  simp only [encode_eq_utf8, utf8] at same
  have arrays : first.toList.utf8Encode = second.toList.utf8Encode := by
    rw [List.utf8Encode, List.utf8Encode, same]
  rw [String.utf8Encode_toList, String.utf8Encode_toList] at arrays
  exact String.toByteArray_inj.mp arrays

private theorem byteCount_from (text : List Char) (count : Nat) :
    text.foldl (fun count c => count + c.utf8Size) count = count + (utf8 text).length := by
  induction text generalizing count with
  | nil => rfl
  | cons c text ih =>
      rw [List.foldl_cons, ih, utf8_cons, List.length_append, String.length_utf8EncodeChar,
        Nat.add_assoc]

theorem byteCount_eq_length (text : List Char) : byteCount text = (utf8 text).length := by
  rw [byteCount, byteCount_from, Nat.zero_add]

theorem utf8EncodeChar_low (c : Char) (low : c.toNat < 0x80) :
    String.utf8EncodeChar c = [UInt8.ofNat c.toNat] := by
  have bound : c.val.toNat ≤ 0x7f := Nat.le_of_lt_succ low
  simp only [String.utf8EncodeChar, bound, ↓reduceIte]
  rfl

theorem high_of_mem_utf8EncodeChar (c : Char) (high : 0x80 ≤ c.toNat) (byte : UInt8)
    (member : byte ∈ String.utf8EncodeChar c) : 0x80 ≤ byte := by
  have beyond : ¬ c.val.toNat ≤ 0x7f := Nat.not_le_of_lt high
  have place : ∀ value base : Nat, 0x80 ≤ base → value + base < 256 →
      0x80 ≤ UInt8.ofNat (value + base) := by
    intro value base above small
    rw [UInt8.le_iff_toNat_le, UInt8.toNat_ofNat_of_lt' small]
    exact Nat.le_trans above (Nat.le_add_left base value)
  simp only [String.utf8EncodeChar, beyond, ↓reduceIte] at member
  split at member
  · simp only [List.mem_cons, List.not_mem_nil, or_false] at member
    rcases member with rfl | rfl <;> exact place _ _ (by omega) (by omega)
  · split at member
    · simp only [List.mem_cons, List.not_mem_nil, or_false] at member
      rcases member with rfl | rfl | rfl <;> exact place _ _ (by omega) (by omega)
    · simp only [List.mem_cons, List.not_mem_nil, or_false] at member
      rcases member with rfl | rfl | rfl | rfl <;> exact place _ _ (by omega) (by omega)

/-- No byte of another character can be taken for one below 0x80. -/
theorem mem_utf8EncodeChar_low (c : Char) (byte : UInt8) (low : byte < 0x80) :
    byte ∈ String.utf8EncodeChar c ↔ c.toNat = byte.toNat := by
  by_cases small : c.toNat < 0x80
  · rw [utf8EncodeChar_low c small, List.mem_singleton, ← UInt8.toNat_inj,
      UInt8.toNat_ofNat_of_lt' (by simp only [UInt8.size]; omega), eq_comm]
  · constructor
    · intro member
      have high := high_of_mem_utf8EncodeChar c (by omega) byte member
      rw [UInt8.lt_iff_toNat_lt] at low
      rw [UInt8.le_iff_toNat_le] at high
      omega
    · intro same
      rw [UInt8.lt_iff_toNat_lt, ← same] at low
      exact absurd low small

theorem count_utf8_newLine (text : List Char) : (utf8 text).count 10 = text.count '\n' := by
  induction text with
  | nil => rfl
  | cons c text ih =>
      rw [utf8_cons, List.count_append, ih, List.count_cons]
      by_cases newLine : c = '\n'
      · subst newLine
        exact Nat.add_comm _ _
      · have other : (c == '\n') = false := beq_eq_false_iff_ne.mpr newLine
        have absent : (10 : UInt8) ∉ String.utf8EncodeChar c := by
          rw [mem_utf8EncodeChar_low c 10 (by decide)]
          exact fun same => newLine (Char.toNat_inj.mp same)
        simp only [List.count_eq_zero_of_not_mem absent, other, Bool.false_eq_true, ↓reduceIte,
          Nat.zero_add, Nat.add_zero]

end SourceIndex.Text
