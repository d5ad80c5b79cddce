import SourceIndex.Proofs.Extraction.Numbering

set_option autoImplicit false

namespace SourceIndex

theorem Text.dropLead?_eq_some_iff (lead text rest : String) :
    dropLead? lead text = some rest ↔ text = lead ++ rest := by
  constructor
  · intro dropped
    rw [dropLead?] at dropped
    split at dropped
    · rename_i begins
      obtain ⟨later, whole⟩ := List.isPrefixOf_iff_prefix.mp begins
      rw [← whole, ← String.length_toList, List.drop_left, Option.some.injEq] at dropped
      rw [← dropped, ← String.toList_inj, String.toList_append, String.toList_ofList, whole]
    · exact absurd dropped (by simp)
  · rintro rfl
    exact dropLead?_append lead rest

/-- The digits of a number have neither a sign nor zeros before them. -/
theorem numeral_eq_toDigits_iff (signed : Bool) (zeros number other : Nat) :
    numeral signed zeros number = Nat.toDigits 10 other ↔
      signed = false ∧ zeros = 0 ∧ number = other := by
  constructor
  · intro same
    cases signed with
    | true =>
        have first : '+' ∈ numeral true zeros number := List.mem_cons_self
        rw [same] at first
        exact absurd (isDigit_of_mem_toDigits first) (by decide)
    | false =>
        have padded : List.replicate zeros '0' ++ Nat.toDigits 10 number = Nat.toDigits 10 other :=
          same
        -- Both are read as one number, so they differ by the zeros alone.
        have value := congrArg (fun digits => Nat.ofDigitChars 10 digits 0) padded
        simp only [Nat.ofDigitChars_append, Nat.ofDigitChars_replicate_zero, Nat.mul_zero,
          Nat.ofDigitChars_ten_toDigits] at value
        have length := congrArg List.length padded
        rw [value, List.length_append, List.length_replicate] at length
        exact ⟨rfl, by omega, value⟩
  · rintro ⟨rfl, rfl, rfl⟩
    rfl

namespace Chunk

/-- The id that a number would have if it were spelled in another way. -/
def spelledId (signed : Bool) (zeros number : Nat) : String :=
  idLead ++ String.ofList (numeral signed zeros number)

/-- Whether the id of a chunk is read as the number that it was made of, and as none if it was made
of none that fits a word. -/
def InvertsId (chunk : Chunk) : Prop :=
  ∀ number, chunk.number? = some number ↔ number < wordBound ∧ chunk.id = idOf number

theorem spelledId_eq_idOf_iff (signed : Bool) (zeros number other : Nat) :
    spelledId signed zeros number = idOf other ↔ signed = false ∧ zeros = 0 ∧ number = other := by
  rw [spelledId, idOf, ← String.toList_inj, String.toList_append, String.toList_append,
    List.append_cancel_left_eq, String.toList_ofList, Nat.toString_eq_repr, Nat.toList_repr,
    numeral_eq_toDigits_iff]

theorem number?_eq_some_iff (chunk : Chunk) (number : Nat) : chunk.number? = some number ↔
    number < wordBound ∧ ∃ signed zeros, chunk.id = spelledId signed zeros number := by
  rw [number?, Option.bind_eq_some_iff]
  simp only [Text.dropLead?_eq_some_iff, wordOf?_eq_some_iff]
  constructor
  · rintro ⟨rest, id, fits, signed, zeros, spelled⟩
    exact ⟨fits, signed, zeros, by rw [id, spelledId, ← spelled, String.ofList_toList]⟩
  · rintro ⟨fits, signed, zeros, id⟩
    exact ⟨_, id, fits, signed, zeros, String.toList_ofList⟩

/-- An id is read as a number that fits a word if and only if it is spelled with its digits after
zeros and a plus sign or none; and reading inverts the making of ids for a chunk if and only if its
id is not spelled with such a sign or zeros. -/
theorem number?_spelled (chunk : Chunk) :
    (∀ number, chunk.number? = some number ↔
      number < wordBound ∧ ∃ signed zeros, chunk.id = spelledId signed zeros number) ∧
    (chunk.InvertsId ↔ ∀ signed zeros number, number < wordBound →
      chunk.id = spelledId signed zeros number → signed = false ∧ zeros = 0) := by
  refine ⟨number?_eq_some_iff chunk, ?_, ?_⟩
  · intro inverts signed zeros number fits id
    have read := (number?_eq_some_iff chunk number).mpr ⟨fits, signed, zeros, id⟩
    have made := ((inverts number).mp read).2
    have plain := (spelledId_eq_idOf_iff signed zeros number number).mp (id.symm.trans made)
    exact ⟨plain.1, plain.2.1⟩
  · intro plain number
    rw [number?_eq_some_iff]
    refine and_congr_right fun fits => ⟨?_, ?_⟩
    · rintro ⟨signed, zeros, id⟩
      obtain ⟨rfl, rfl⟩ := plain signed zeros number fits id
      exact id.trans ((spelledId_eq_idOf_iff false 0 number number).mpr ⟨rfl, rfl, rfl⟩)
    · intro id
      exact ⟨false, 0, id.trans ((spelledId_eq_idOf_iff false 0 number number).mpr
        ⟨rfl, rfl, rfl⟩).symm⟩

theorem not_invertsId_of_sign :
    ¬ ({ id := "chunk_+7", file := "src/s.go", code := "func S() {}", startLine := 10,
         endLine := 12, symbol := "S", kind := "function_declaration" } : Chunk).InvertsId := by
  intro inverts
  have made := ((inverts 7).mp (by decide)).2
  exact absurd made (by decide)

end Chunk

end SourceIndex
