import SourceIndex.Command
import SourceIndex.Proofs.Text.Joints
import SourceIndex.Proofs.Text.Trimming

set_option autoImplicit false

namespace SourceIndex

namespace Text

def IsBlank (text : List Char) : Prop := ∀ c ∈ text, isBlank c = true

theorem isBlank_append {front back : List Char} :
    IsBlank (front ++ back) ↔ IsBlank front ∧ IsBlank back := List.forall_mem_append

theorem IsBare.not_isBlank {words : List Char} (bare : IsBare words) (some : words ≠ []) :
    ¬ IsBlank words := by
  obtain ⟨c, rest, rfl⟩ := List.exists_cons_of_ne_nil some
  intro blank
  exact Bool.false_ne_true ((bare.first c rfl).symm.trans (blank c List.mem_cons_self))

/-- A text around its last line that is not blank: what stands above the line, and below it. Lines
end at line feeds. -/
structure LastLine (text above line below : List Char) : Prop where
  whole : text = above ++ line ++ below
  closed : above = [] ∨ ∃ front, above = front ++ ['\n']
  single : '\n' ∉ line
  opened : below = [] ∨ ∃ back, below = '\n' :: back
  some : ¬ IsBlank line
  blank : IsBlank below

theorem exists_last_word {text : List Char} (some : ¬ IsBlank text) :
    ∃ front last rest, text = front ++ last :: rest ∧ isBlank last = false ∧ IsBlank rest := by
  have ended : text.rdropWhile isBlank ≠ [] := fun none =>
    some (List.rdropWhile_eq_nil_iff.mp none)
  refine ⟨(text.rdropWhile isBlank).dropLast, (text.rdropWhile isBlank).getLast ended,
    text.rtakeWhile isBlank, ?_,
    Bool.eq_false_iff.mpr (List.rdropWhile_last_not isBlank text ended),
    fun c => List.mem_rtakeWhile_imp⟩
  rw [List.append_cons, List.dropLast_concat_getLast ended, List.rdropWhile_append_rtakeWhile]

theorem exists_first_word {text : List Char} (some : ¬ IsBlank text) :
    ∃ front first rest, text = front ++ first :: rest ∧ IsBlank front ∧ isBlank first = false := by
  have begun : text.dropWhile isBlank ≠ [] := fun none => some (List.dropWhile_eq_nil_iff.mp none)
  obtain ⟨first, rest, cut⟩ := List.exists_cons_of_ne_nil begun
  have word := List.head?_dropWhile_not isBlank text
  rw [cut] at word
  refine ⟨text.takeWhile isBlank, first, rest, ?_, fun c => List.mem_takeWhile_imp, word⟩
  rw [← cut, List.takeWhile_append_dropWhile]

/-- The end of a text from its last line feed on is a part of a line. -/
theorem exists_line_start (front : List Char) : ∃ above left, front = above ++ left ∧
    (above = [] ∨ ∃ lines, above = lines ++ ['\n']) ∧ '\n' ∉ left := by
  refine ⟨front.rdropWhile (· != '\n'), front.rtakeWhile (· != '\n'),
    (List.rdropWhile_append_rtakeWhile).symm, ?_, fun feed => ?_⟩
  · by_cases none : front.rdropWhile (· != '\n') = []
    · exact .inl none
    · have feed := List.rdropWhile_last_not (· != '\n') _ none
      rw [Bool.not_eq_true, bne_eq_false_iff_eq] at feed
      exact .inr ⟨_, feed ▸ (List.dropLast_concat_getLast none).symm⟩
  · exact absurd (List.mem_rtakeWhile_imp (p := (· != '\n')) feed) (by decide)

/-- The beginning of a text up to its first line feed is a part of a line. -/
theorem exists_line_rest (rest : List Char) : ∃ right below, rest = right ++ below ∧
    (below = [] ∨ ∃ lines, below = '\n' :: lines) ∧ '\n' ∉ right := by
  refine ⟨rest.takeWhile (· != '\n'), rest.dropWhile (· != '\n'),
    List.takeWhile_append_dropWhile.symm, ?_, fun feed => ?_⟩
  · cases left : rest.dropWhile (· != '\n') with
    | nil => exact .inl rfl
    | cons c lines =>
        have feed := List.head?_dropWhile_not (· != '\n') rest
        rw [left] at feed
        exact .inr ⟨lines, by simpa using feed⟩
  · exact absurd (List.mem_takeWhile_imp (p := (· != '\n')) feed) (by decide)

theorem exists_lastLine {text : List Char} (some : ¬ IsBlank text) :
    ∃ above line below, LastLine text above line below := by
  obtain ⟨front, last, rest, rfl, word, blank⟩ := exists_last_word some
  obtain ⟨above, left, rfl, closed, singleLeft⟩ := exists_line_start front
  obtain ⟨right, below, rfl, opened, singleRight⟩ := exists_line_rest rest
  refine ⟨above, left ++ last :: right, below, ?_, closed, ?_, opened, ?_,
    (isBlank_append.mp blank).2⟩
  · simp only [List.append_assoc, List.cons_append]
  · rw [List.mem_append, List.mem_cons]
    rintro (feed | rfl | feed)
    · exact singleLeft feed
    · exact absurd word (by decide)
    · exact singleRight feed
  · intro all
    have blankLast := all last (List.mem_append_right left List.mem_cons_self)
    exact Bool.false_ne_true (word.symm.trans blankLast)

/-- A line that is not blank: its words, and the blanks around them. -/
structure Worded (line lead words tail : List Char) : Prop where
  whole : line = lead ++ words ++ tail
  bare : IsBare words
  some : words ≠ []
  lead : IsBlank lead
  tail : IsBlank tail

theorem exists_worded {line : List Char} (some : ¬ IsBlank line) :
    ∃ lead tail, Worded line lead (trim line) tail := by
  obtain ⟨bare, lead, tail, whole, blankLead, blankTail⟩ := (isTrimmed_iff line _).mpr rfl
  exact ⟨lead, tail, whole, bare, fun none => some ((trim_eq_nil_iff line).mp none), blankLead,
    blankTail⟩

section

variable {line lead words tail : List Char}

theorem Worded.not_mem (worded : Worded line lead words tail) {c : Char} (absent : c ∉ line) :
    c ∉ lead ++ words :=
  fun inside => absent (worded.whole ▸ List.mem_append_left tail inside)

theorem Worded.trimEnd_eq (worded : Worded line lead words tail) :
    trimEnd line = lead ++ words := by
  obtain ⟨start, last, ended⟩ := words.eq_nil_or_concat.resolve_left worded.some
  rw [List.concat_eq_append] at ended
  have word : ¬ isBlank last = true :=
    Bool.eq_false_iff.mp (worded.bare.last last (by rw [ended]; exact List.getLast?_concat))
  have trimmed := rdropWhile_append_blanks (lead ++ words) tail worded.tail
  rw [worded.whole]
  refine trimmed.trans ?_
  rw [ended, ← List.append_assoc]
  exact List.rdropWhile_concat_neg isBlank _ last word

end

theorem lastPiece_trim_of_blank_above {text above line below : List Char}
    (parts : LastLine text above line below) (blank : IsBlank above) :
    lastPiece '\n' (trim text) = trim line := by
  obtain ⟨lead, tail, worded⟩ := exists_worded parts.some
  have whole : text = (above ++ lead) ++ trim line ++ (tail ++ below) := by
    rw [parts.whole]
    nth_rewrite 1 [worded.whole]
    simp only [List.append_assoc]
  have single : '\n' ∉ trim line :=
    fun feed => worded.not_mem parts.single (List.mem_append_right lead feed)
  rw [whole, trim_between _ _ _ worded.bare (isBlank_append.mpr ⟨blank, worded.lead⟩)
    (isBlank_append.mpr ⟨worded.tail, parts.blank⟩), lastPiece_of_not_mem _ _ single]

/-- With a word above it, the last line keeps the blanks before its words. -/
theorem lastPiece_trim_of_word_above {text above line below : List Char}
    (parts : LastLine text above line below) (word : ¬ IsBlank above) :
    lastPiece '\n' (trim text) = trimEnd line := by
  obtain ⟨lead, tail, worded⟩ := exists_worded parts.some
  have occupied : above ≠ [] := by
    rintro rfl
    exact word fun c inside => absurd inside List.not_mem_nil
  obtain ⟨lines, rfl⟩ := parts.closed.resolve_left occupied
  have words : ¬ IsBlank lines := fun blank => word (isBlank_append.mpr
    ⟨blank, List.forall_mem_singleton.mpr rfl⟩)
  obtain ⟨front, first, rest, rfl, blank, opening⟩ := exists_first_word words
  have whole : text =
      front ++ (first :: rest ++ '\n' :: (lead ++ trim line)) ++ (tail ++ below) := by
    rw [parts.whole]
    nth_rewrite 1 [worded.whole]
    simp only [List.append_assoc, List.cons_append, List.nil_append]
  have bare : IsBare (first :: rest ++ '\n' :: (lead ++ trim line)) := by
    constructor
    · intro c head
      exact Option.some.inj head ▸ opening
    · intro c last
      rw [← List.cons_append, ← List.append_assoc,
        List.getLast?_append_of_ne_nil _ worded.some] at last
      exact worded.bare.last c last
  rw [whole, trim_between _ _ _ bare blank (isBlank_append.mpr ⟨worded.tail, parts.blank⟩),
    lastPiece_joint, lastPiece_of_not_mem _ _ (worded.not_mem parts.single), worded.trimEnd_eq]

/-- What is said of a text: its last line that is not blank, without the blanks after it, and
without those before it if no word stands above it. -/
inductive Summarizes (text : List Char) : List Char → Prop where
  | nothing : IsBlank text → Summarizes text "no stderr output".toList
  | first {above line below : List Char} : LastLine text above line below → IsBlank above →
      Summarizes text (trim line)
  | later {above line below : List Char} : LastLine text above line below → ¬ IsBlank above →
      Summarizes text (trimEnd line)

theorem LastLine.not_isBlank {text above line below : List Char}
    (parts : LastLine text above line below) : ¬ IsBlank text := by
  rw [parts.whole, isBlank_append, isBlank_append]
  exact fun blank => parts.some blank.1.2

theorem Summarizes.not_isBlank {text words : List Char} (said : Summarizes text words) :
    ¬ IsBlank words := by
  cases said with
  | nothing => exact fun blank => absurd (blank 'n' (by decide)) (by decide)
  | first parts =>
      obtain ⟨lead, tail, worded⟩ := exists_worded parts.some
      exact worded.bare.not_isBlank worded.some
  | later parts =>
      obtain ⟨lead, tail, worded⟩ := exists_worded parts.some
      rw [worded.trimEnd_eq, isBlank_append]
      exact fun blank => worded.bare.not_isBlank worded.some blank.2

theorem Summarizes.single {text words : List Char} (said : Summarizes text words) :
    '\n' ∉ words := by
  cases said with
  | nothing => decide
  | first parts =>
      obtain ⟨lead, tail, worded⟩ := exists_worded parts.some
      exact fun feed => worded.not_mem parts.single (List.mem_append_right lead feed)
  | later parts =>
      obtain ⟨lead, tail, worded⟩ := exists_worded parts.some
      rw [worded.trimEnd_eq]
      exact worded.not_mem parts.single

end Text

namespace CommandResult

open Text

theorem toList_summary (result : CommandResult) : result.summary.toList =
    if trim (decodeLossy result.complaints) = [] then "no stderr output".toList
    else lastPiece '\n' (trim (decodeLossy result.complaints)) := by
  rw [summary]
  split
  · rename_i none
    rw [if_pos none]
  · rename_i some
    rw [if_neg some, String.toList_ofList]

theorem summary_of_summarizes {result : CommandResult} {words : List Char}
    (said : Summarizes (decodeLossy result.complaints) words) :
    words = result.summary.toList := by
  rw [toList_summary]
  cases said with
  | nothing blank => rw [if_pos ((trim_eq_nil_iff _).mpr blank)]
  | first parts blank =>
      rw [if_neg fun none => parts.not_isBlank ((trim_eq_nil_iff _).mp none),
        lastPiece_trim_of_blank_above parts blank]
  | later parts word =>
      rw [if_neg fun none => parts.not_isBlank ((trim_eq_nil_iff _).mp none),
        lastPiece_trim_of_word_above parts word]

theorem exists_summarizes (text : List Char) : ∃ words, Summarizes text words := by
  by_cases blank : IsBlank text
  · exact ⟨_, .nothing blank⟩
  · obtain ⟨above, line, below, parts⟩ := exists_lastLine blank
    by_cases none : IsBlank above
    · exact ⟨_, .first parts none⟩
    · exact ⟨_, .later parts none⟩

/-- What is shown of a failed command is what is said of its complaints, one line that is not
blank. -/
theorem summary_summarizes (result : CommandResult) :
    (∀ words, Summarizes (decodeLossy result.complaints) words ↔ words = result.summary.toList) ∧
      ¬ IsBlank result.summary.toList ∧ '\n' ∉ result.summary.toList := by
  obtain ⟨words, said⟩ := exists_summarizes (decodeLossy result.complaints)
  obtain rfl := summary_of_summarizes said
  refine ⟨fun other => ⟨summary_of_summarizes, ?_⟩, said.not_isBlank, said.single⟩
  rintro rfl
  exact said

end CommandResult

end SourceIndex
