import SourceIndex.Proofs.Extraction.Cuts
import SourceIndex.Proofs.Text.LineEnds

/-
The parser reads sanitized text, and its rows stand for lines of the text as it was. They do so, and
nothing but a line that names an interpreter is hidden from the parser, exactly if no lone carriage
return ends a line before the first line feed of a text that opens with such a line.
-/

set_option autoImplicit false

namespace SourceIndex

open Text (utf8 utf8_cons utf8_append)

/-- The rows of all places in a tree are the line feeds before them in the bytes of its text. -/
def Node.CountsRows (bytes : List UInt8) (tree : Node) : Prop :=
  ∀ node ∈ tree.preorder,
    node.data.first.row = (bytes.take node.data.first.byte).count 10 ∧
      node.data.last.row = (bytes.take node.data.last.byte).count 10

namespace LineEnds

/-- Whether the text opens with a line that is hidden from the parser. -/
def HasHiddenLine (language : Language) (text : List Char) : Prop :=
  (language.blanksInterpreterLine && hasInterpreterLine text) = true

/-- A text opens with a hidden line, and before its first line feed stands a carriage return that
ends a line. -/
def HidesLineEnd (language : Language) (text : List Char) : Prop :=
  HasHiddenLine language text ∧ ∃ before after, text = before ++ '\r' :: after ∧
    '\n' ∉ before ∧ after.head? ≠ some '\n'

/-- What the lines of sanitized text have to do with those of the text as it was. -/
structure KeepsLines (language : Language) (text : List Char) : Prop where
  /-- Up to every byte, as many line feeds stand as lines have ended. -/
  rows : ∀ count, ((utf8 (sanitize language text)).take count).count 10 =
    endsWithin (utf8 text) count
  /-- A byte outside a hidden first line is what it was, unless it is a carriage return. -/
  visible : ∀ index byte,
    (HasHiddenLine language text → firstLineLength (utf8 text) ≤ index) →
    (utf8 text)[index]? = some byte → byte ≠ 13 →
    (utf8 (sanitize language text))[index]? = some byte
  /-- If the rows of the tree are line feeds, a chunk has the lines on which its code lies. -/
  chunkLines : ∀ (parse : Language → List Char → Node) (tolerant : Bool) (path : String)
    (extraction : Extraction),
    (parse language (sanitize language text)).CountsRows (utf8 (sanitize language text)) →
    Extraction.ofText parse language tolerant path text = .ok extraction →
    ∀ chunk ∈ extraction.chunks, ∃ first last,
      Text.sliceBytes? text first last = some chunk.code.toList ∧
      chunk.startLine = endsWithin (utf8 text) first + 1 ∧
      chunk.endLine = endsWithin (utf8 text) last + 1

theorem sanitize_of_no_hidden_line {language : Language} {text : List Char}
    (plain : ¬ HasHiddenLine language text) : sanitize language text = unify text := by
  unfold HasHiddenLine at plain
  rw [sanitize, if_neg plain]

theorem utf8_blanks (text : List Char) :
    utf8 (blanks text) = List.replicate (utf8 text).length 32 := by
  rw [blanks, Text.byteCount_eq_length]
  generalize (utf8 text).length = count
  induction count with
  | zero => rfl
  | succ count ih => rw [List.replicate_succ, utf8_cons, ih, List.replicate_succ]; rfl

theorem count_replicate_blank (count : Nat) :
    (List.replicate count (32 : UInt8)).count 10 = 0 := by
  rw [List.count_replicate]
  rfl

/-- The part of a text before its first line feed, and the rest. -/
abbrev opening (text : List Char) : List Char := text.takeWhile (· != '\n')

abbrev afterOpening (text : List Char) : List Char := text.dropWhile (· != '\n')

theorem utf8_opening (text : List Char) :
    utf8 text = utf8 (opening text) ++ utf8 (afterOpening text) := by
  rw [← utf8_append, List.takeWhile_append_dropWhile]

theorem utf8_sanitize_of_hidden_line {language : Language} {text : List Char}
    (hidden : HasHiddenLine language text) :
    utf8 (sanitize language text) =
      List.replicate (utf8 (opening text)).length 32 ++ unifyBytes (utf8 (afterOpening text)) := by
  unfold HasHiddenLine at hidden
  rw [sanitize, if_pos hidden, utf8_append, utf8_blanks, utf8_unify]

theorem endsWithin_utf8_cons (c : Char) (text : List Char) (count : Nat) :
    endsWithin (utf8 (c :: text)) ((String.utf8EncodeChar c).length + count) =
      (if c = '\n' ∨ (c = '\r' ∧ text.head? ≠ some '\n') then 1 else 0) +
        endsWithin (utf8 text) count := by
  rw [utf8_cons, endsWithin_append]
  congr 1
  by_cases feed : c = '\n'
  · subst feed
    simp [String.utf8EncodeChar, endsWithin, endsLine]
  by_cases carriage : c = '\r'
  · subst carriage
    by_cases next : text.head? = some '\n'
    · simp [String.utf8EncodeChar, endsWithin, endsLine, next, (head?_utf8 text).mpr next]
    · have apart : (utf8 text).head? ≠ some 10 := fun same => next ((head?_utf8 text).mp same)
      simp [String.utf8EncodeChar, endsWithin, endsLine, next, bne_iff_ne.mpr apart]
  · have feedless := ne_of_mem_utf8EncodeChar c 10 (by decide)
      fun same => feed (Char.toNat_inj.mp same)
    have carriageless := ne_of_mem_utf8EncodeChar c 13 (by decide)
      fun same => carriage (Char.toNat_inj.mp same)
    rw [endsWithin_of_plain _ _ feedless carriageless]
    simp [feed, carriage]

theorem lineEnd_of_endsWithin_opening (text : List Char)
    (ended : endsWithin (utf8 text) (utf8 (opening text)).length ≠ 0) :
    ∃ before after, text = before ++ '\r' :: after ∧ '\n' ∉ before ∧
      after.head? ≠ some '\n' := by
  induction text with
  | nil => exact absurd rfl ended
  | cons c text ih =>
      by_cases feed : c = '\n'
      · subst feed
        simp at ended
      · have opened : opening (c :: text) = c :: opening text :=
          List.takeWhile_cons_of_pos (by simpa using feed)
        rw [opened, utf8_cons c (opening text), List.length_append, endsWithin_utf8_cons] at ended
        by_cases alone : c = '\r' ∧ text.head? ≠ some '\n'
        · exact ⟨[], text, by rw [alone.1]; rfl, List.not_mem_nil, alone.2⟩
        · rw [if_neg (by simp only [feed, alone, or_self, not_false_eq_true]), Nat.zero_add]
            at ended
          obtain ⟨before, after, rfl, feedless, next⟩ := ih ended
          refine ⟨c :: before, after, rfl, ?_, next⟩
          simp only [List.mem_cons, not_or]
          exact ⟨fun same => feed same.symm, feedless⟩

theorem opening_of_carriageReturn (before after : List Char) (feedless : '\n' ∉ before) :
    opening (before ++ '\r' :: after) = before ++ '\r' :: opening after := by
  have passed : ∀ c ∈ before, (c != '\n') = true := by
    intro c member
    rw [bne_iff_ne]
    rintro rfl
    exact feedless member
  rw [opening, List.takeWhile_append_of_pos passed]
  rfl

/-- The row of every place after a hidden line end is one too small. -/
theorem not_rows_of_hidesLineEnd {language : Language} {text : List Char}
    (hides : HidesLineEnd language text) :
    ∃ count, ((utf8 (sanitize language text)).take count).count 10 ≠
      endsWithin (utf8 text) count := by
  obtain ⟨hidden, before, after, rfl, feedless, next⟩ := hides
  refine ⟨(utf8 before).length + 1, ?_⟩
  have ended : endsWithin (utf8 ('\r' :: after)) 1 = 1 := by
    have step := endsWithin_utf8_cons '\r' after 0
    simpa [next, String.utf8EncodeChar] using step
  have inside : (utf8 before).length + 1 ≤
      (utf8 (opening (before ++ '\r' :: after))).length := by
    rw [opening_of_carriageReturn before after feedless, utf8_append, utf8_cons]
    simp only [List.length_append, String.length_utf8EncodeChar]
    have size : ('\r').utf8Size = 1 := rfl
    omega
  have blank : ((utf8 (sanitize language (before ++ '\r' :: after))).take
      ((utf8 before).length + 1)).count 10 = 0 := by
    rw [utf8_sanitize_of_hidden_line hidden, List.take_append_of_le_length (by simpa using inside),
      List.take_replicate, count_replicate_blank]
  rw [blank, utf8_append, endsWithin_append, ended]
  omega

theorem rows_of_hidden_line {language : Language} {text : List Char}
    (hidden : HasHiddenLine language text)
    (open' : endsWithin (utf8 text) (utf8 (opening text)).length = 0) (count : Nat) :
    ((utf8 (sanitize language text)).take count).count 10 = endsWithin (utf8 text) count := by
  rw [utf8_sanitize_of_hidden_line hidden]
  rw [utf8_opening text] at open' ⊢
  generalize utf8 (opening text) = first at open' ⊢
  generalize utf8 (afterOpening text) = rest at open' ⊢
  by_cases inside : count ≤ first.length
  · have none := endsWithin_mono (first ++ rest) inside
    rw [List.take_append_of_le_length (by simpa using inside), List.take_replicate,
      count_replicate_blank]
    omega
  · obtain ⟨more, rfl⟩ := Nat.exists_eq_add_of_le (Nat.le_of_not_le inside)
    rw [endsWithin_append, open', Nat.zero_add, ← count_take_unifyBytes, List.take_append,
      List.count_append, List.length_replicate, Nat.add_sub_cancel_left, List.take_replicate,
      count_replicate_blank, Nat.zero_add]

theorem visible_of_hidden_line {language : Language} {text : List Char}
    (hidden : HasHiddenLine language text)
    (open' : endsWithin (utf8 text) (utf8 (opening text)).length = 0) (index : Nat) (byte : UInt8)
    (beyond : firstLineLength (utf8 text) ≤ index) (found : (utf8 text)[index]? = some byte)
    (kept : byte ≠ 13) : (utf8 (sanitize language text))[index]? = some byte := by
  have inside : (utf8 (opening text)).length ≤ (utf8 text).length := by
    rw [utf8_opening text, List.length_append]
    exact Nat.le_add_right _ _
  have after := Nat.le_trans (le_firstLineLength (utf8 text) _ inside open') beyond
  obtain ⟨more, rfl⟩ := Nat.exists_eq_add_of_le after
  rw [utf8_opening text, List.getElem?_append_right (Nat.le_add_right _ _),
    Nat.add_sub_cancel_left] at found
  rw [utf8_sanitize_of_hidden_line hidden, List.getElem?_append_right (by simp),
    List.length_replicate, Nat.add_sub_cancel_left, getElem?_unifyBytes, found, Option.map_some,
    unifiedByte_of_ne _ _ kept]

end LineEnds

namespace Extraction

/-- Every chunk is cut out at the place of a node, and has its rows. -/
theorem node_of_mem_chunks {parse : Language → List Char → Node} {language : Language}
    {tolerant : Bool} {path : String} {text : List Char} {extraction : Extraction} {chunk : Chunk}
    (success : ofText parse language tolerant path text = .ok extraction)
    (member : chunk ∈ extraction.chunks) :
    ∃ node ∈ (parse language (LineEnds.sanitize language text)).preorder,
      Text.sliceBytes? text node.data.first.byte node.data.last.byte = some chunk.code.toList ∧
      chunk.startLine = node.data.first.row + 1 ∧ chunk.endLine = node.data.last.row + 1 := by
  rw [ofText_eq_ok success, ← map_snd_cuts, List.mem_map] at member
  obtain ⟨cut, among, rfl⟩ := member
  obtain ⟨found, index, made⟩ := cutFor_of_mem_cuts among
  obtain ⟨node, inTree, same⟩ := Declaration.node_of_mem_ofTree found
  rw [← same] at made
  exact ⟨node, inTree, made.code, made.startLine, made.endLine⟩

end Extraction

namespace LineEnds

theorem chunkLines_of_rows {language : Language} {text : List Char}
    (rows : ∀ count, ((utf8 (sanitize language text)).take count).count 10 =
      endsWithin (utf8 text) count)
    (parse : Language → List Char → Node) (tolerant : Bool) (path : String)
    (extraction : Extraction)
    (counts : (parse language (sanitize language text)).CountsRows (utf8 (sanitize language text)))
    (success : Extraction.ofText parse language tolerant path text = .ok extraction) :
    ∀ chunk ∈ extraction.chunks, ∃ first last,
      Text.sliceBytes? text first last = some chunk.code.toList ∧
      chunk.startLine = endsWithin (utf8 text) first + 1 ∧
      chunk.endLine = endsWithin (utf8 text) last + 1 := by
  intro chunk member
  obtain ⟨node, inTree, sliced, start, finish⟩ := Extraction.node_of_mem_chunks success member
  obtain ⟨firstRow, lastRow⟩ := counts node inTree
  exact ⟨_, _, sliced, by rw [start, firstRow, rows], by rw [finish, lastRow, rows]⟩

/-- The parser sees all code, and the lines of chunks are right, for exactly the texts in which no
hidden line hides a line end. -/
theorem keepsLines_iff (language : Language) (text : List Char) :
    KeepsLines language text ↔ ¬ HidesLineEnd language text := by
  constructor
  · intro keeps hides
    obtain ⟨count, differs⟩ := not_rows_of_hidesLineEnd hides
    exact differs (keeps.rows count)
  · intro open'
    by_cases hidden : HasHiddenLine language text
    · have endless : endsWithin (utf8 text) (utf8 (opening text)).length = 0 := by
        apply Decidable.byContradiction
        intro ended
        exact open' ⟨hidden, lineEnd_of_endsWithin_opening text ended⟩
      have rows := rows_of_hidden_line hidden endless
      refine ⟨rows, ?_, chunkLines_of_rows rows⟩
      intro index byte beyond found kept
      exact visible_of_hidden_line hidden endless index byte (beyond hidden) found kept
    · have plain := sanitize_of_no_hidden_line hidden
      have rows : ∀ count, ((utf8 (sanitize language text)).take count).count 10 =
          endsWithin (utf8 text) count := by
        intro count
        rw [plain, utf8_unify, count_take_unifyBytes]
      refine ⟨rows, ?_, chunkLines_of_rows rows⟩
      intro index byte _ found kept
      rw [plain, utf8_unify, getElem?_unifyBytes, found, Option.map_some,
        unifiedByte_of_ne _ _ kept]

/-- A carriage return ends the line that names the interpreter, and both functions are hidden. -/
theorem not_keepsLines_of_carriageReturns :
    ¬ KeepsLines .javaScript
      "#!/usr/bin/env node\rfunction f() \x7b\x7d\rfunction g() \x7b\x7d\r".toList := by
  intro keeps
  exact absurd (keeps.rows 20) (by decide +kernel)

end LineEnds

end SourceIndex
