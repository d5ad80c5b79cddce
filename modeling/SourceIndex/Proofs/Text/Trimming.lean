import Mathlib.Data.List.DropRight
import SourceIndex.Text.Blank

set_option autoImplicit false

namespace SourceIndex.Text

/-- No blank stands at an end of the text. -/
structure IsBare (text : List Char) : Prop where
  first : ∀ c ∈ text.head?, isBlank c = false
  last : ∀ c ∈ text.getLast?, isBlank c = false

/-- The words are the text without the blanks around it. -/
def IsTrimmed (text words : List Char) : Prop :=
  IsBare words ∧ ∃ before after, text = before ++ words ++ after ∧
    (∀ c ∈ before, isBlank c = true) ∧ ∀ c ∈ after, isBlank c = true

theorem trim_eq (text : List Char) : trim text = (text.dropWhile isBlank).rdropWhile isBlank := rfl

theorem trim_eq_nil_iff (text : List Char) : trim text = [] ↔ ∀ c ∈ text, isBlank c = true := by
  rw [trim_eq, List.rdropWhile_eq_nil_iff]
  constructor
  · intro blank c member
    rw [← List.takeWhile_append_dropWhile (p := isBlank) (l := text), List.mem_append] at member
    rcases member with passed | left
    · exact List.mem_takeWhile_imp passed
    · exact blank c left
  · intro blank c member
    exact blank c ((List.dropWhile_suffix isBlank).mem member)

theorem isBare_trim (text : List Char) : IsBare (trim text) := by
  constructor
  · intro c first
    obtain ⟨rest, whole⟩ := List.rdropWhile_prefix isBlank (text.dropWhile isBlank)
    have head := List.head?_dropWhile_not isBlank text
    rw [← whole, List.head?_append, ← trim_eq, Option.mem_def.mp first] at head
    exact head
  · intro c last
    obtain ⟨some, rfl⟩ := List.mem_getLast?_eq_getLast last
    exact Bool.eq_false_iff.mpr (List.rdropWhile_last_not isBlank _ some)

theorem rdropWhile_append_blanks (words after : List Char)
    (blank : ∀ c ∈ after, isBlank c = true) :
    (words ++ after).rdropWhile isBlank = words.rdropWhile isBlank := by
  rw [List.rdropWhile, List.reverse_append, List.dropWhile_append_of_pos, List.rdropWhile]
  exact fun c member => blank c (List.mem_reverse.mp member)

theorem trim_between (before words after : List Char) (bare : IsBare words)
    (blankBefore : ∀ c ∈ before, isBlank c = true) (blankAfter : ∀ c ∈ after, isBlank c = true) :
    trim (before ++ words ++ after) = words := by
  cases words with
  | nil =>
      rw [List.append_nil, trim_eq_nil_iff]
      exact fun c member => (List.mem_append.mp member).elim (blankBefore c) (blankAfter c)
  | cons c words =>
      have first : ¬ isBlank c = true := Bool.eq_false_iff.mp (bare.first c rfl)
      rw [trim_eq, List.append_assoc, List.dropWhile_append_of_pos blankBefore, List.cons_append,
        List.dropWhile_cons_of_neg first, ← List.cons_append,
        rdropWhile_append_blanks _ after blankAfter, List.rdropWhile_eq_self_iff]
      intro some
      exact Bool.eq_false_iff.mp (bare.last _ (List.getLast_mem_getLast? some))

theorem isTrimmed_iff (text words : List Char) : IsTrimmed text words ↔ words = trim text := by
  constructor
  · rintro ⟨bare, before, after, rfl, blankBefore, blankAfter⟩
    exact (trim_between before words after bare blankBefore blankAfter).symm
  · rintro rfl
    refine ⟨isBare_trim text, text.takeWhile isBlank, (text.dropWhile isBlank).rtakeWhile isBlank,
      ?_, fun c => List.mem_takeWhile_imp, fun c => List.mem_rtakeWhile_imp⟩
    rw [trim_eq, List.append_assoc, List.rdropWhile_append_rtakeWhile,
      List.takeWhile_append_dropWhile]

end SourceIndex.Text
