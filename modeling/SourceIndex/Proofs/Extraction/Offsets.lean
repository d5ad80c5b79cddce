import Mathlib.Data.List.Forall2
import SourceIndex.Proofs.Extraction.LineNumbers
import SourceIndex.Proofs.Text.Slices

set_option autoImplicit false

namespace SourceIndex.LineEnds

open Text (utf8 utf8_cons utf8_append IsBoundary)

/-- The number of bytes that are hidden from the parser: those before the first line feed, or all
if there is none, of a text that opens with a hidden line. -/
def hiddenLength (language : Language) (text : List Char) : Nat :=
  if language.blanksInterpreterLine && hasInterpreterLine text then (utf8 (opening text)).length
  else 0

/-- What sanitizing does to the bytes of a text. -/
structure KeepsOffsets (language : Language) (text : List Char) : Prop where
  /-- It has as many bytes as before, -/
  length : (utf8 (sanitize language text)).length = (utf8 text).length
  /-- none of them a carriage return, -/
  carriageless : '\r' ∉ sanitize language text
  /-- and sanitizing once more does nothing. -/
  again : sanitize language (sanitize language text) = sanitize language text
  /-- Hidden bytes are blanks. -/
  hidden : ∀ index < hiddenLength language text,
    (utf8 (sanitize language text))[index]? = some 32
  /-- Another byte is what it was, unless it is a carriage return: that is a blank before a line
  feed, and else a line feed. -/
  shown : ∀ index, hiddenLength language text ≤ index →
    (utf8 (sanitize language text))[index]? =
      ((utf8 text)[index]?).map fun byte => unifiedByte byte (utf8 text)[index + 1]?
  /-- No boundary is lost, and none arises but between hidden bytes. -/
  boundary : ∀ offset, IsBoundary (sanitize language text) offset ↔
    offset < hiddenLength language text ∨ IsBoundary text offset
  /-- So each part of sanitized text that is not hidden can be cut out of the text as it was, and
  only carriage returns are different there. -/
  slices : ∀ first last, hiddenLength language text ≤ first → first ≤ last →
    IsBoundary (sanitize language text) first → IsBoundary (sanitize language text) last →
    ∃ code cleaned, Text.sliceBytes? text first last = some code ∧
      Text.sliceBytes? (sanitize language text) first last = some cleaned ∧
      List.Forall₂ (fun byte other => byte ≠ 13 → other = byte) (utf8 code) (utf8 cleaned)

theorem sanitize_of_hidden_line {language : Language} {text : List Char}
    (hidden : HasHiddenLine language text) :
    sanitize language text = blanks (opening text) ++ unify (afterOpening text) := if_pos hidden

theorem hiddenLength_of_hidden_line {language : Language} {text : List Char}
    (hidden : HasHiddenLine language text) :
    hiddenLength language text = (utf8 (opening text)).length := if_pos hidden

theorem hiddenLength_of_no_hidden_line {language : Language} {text : List Char}
    (plain : ¬ HasHiddenLine language text) : hiddenLength language text = 0 := if_neg plain

theorem length_unifyBytes (bytes : List UInt8) : (unifyBytes bytes).length = bytes.length := by
  induction bytes with
  | nil => rfl
  | cons byte rest ih => rw [unifyBytes, List.length_cons, List.length_cons, ih]

theorem forall₂_unifyBytes (bytes : List UInt8) :
    List.Forall₂ (fun byte other => byte ≠ 13 → other = byte) bytes (unifyBytes bytes) := by
  induction bytes with
  | nil => exact .nil
  | cons byte rest ih => exact .cons (unifiedByte_of_ne byte _) ih

/-- Hidden bytes are blanks and the others are unified, whether or not there are hidden ones. -/
theorem utf8_sanitize (language : Language) (text : List Char) :
    utf8 (sanitize language text) =
      List.replicate (hiddenLength language text) 32 ++
        unifyBytes ((utf8 text).drop (hiddenLength language text)) := by
  by_cases hidden : HasHiddenLine language text
  · rw [utf8_sanitize_of_hidden_line hidden, hiddenLength_of_hidden_line hidden]
    rw [utf8_opening text, List.drop_left]
  · rw [sanitize_of_no_hidden_line hidden, hiddenLength_of_no_hidden_line hidden, utf8_unify]
    rfl

theorem hiddenLength_le (language : Language) (text : List Char) :
    hiddenLength language text ≤ (utf8 text).length := by
  by_cases hidden : HasHiddenLine language text
  · rw [hiddenLength_of_hidden_line hidden, utf8_opening text, List.length_append]
    exact Nat.le_add_right _ _
  · rw [hiddenLength_of_no_hidden_line hidden]
    exact Nat.zero_le _

theorem length_utf8_sanitize (language : Language) (text : List Char) :
    (utf8 (sanitize language text)).length = (utf8 text).length := by
  rw [utf8_sanitize, List.length_append, List.length_replicate, length_unifyBytes,
    List.length_drop, Nat.add_sub_cancel' (hiddenLength_le language text)]

theorem drop_utf8_sanitize (language : Language) (text : List Char) :
    (utf8 (sanitize language text)).drop (hiddenLength language text) =
      unifyBytes ((utf8 text).drop (hiddenLength language text)) := by
  rw [utf8_sanitize, List.drop_left' List.length_replicate]

theorem getElem?_utf8_sanitize_of_lt {language : Language} {text : List Char} {index : Nat}
    (inside : index < hiddenLength language text) :
    (utf8 (sanitize language text))[index]? = some 32 := by
  rw [utf8_sanitize, List.getElem?_append_left (by rwa [List.length_replicate]),
    List.getElem?_replicate_of_lt inside]

theorem getElem?_utf8_sanitize_of_le {language : Language} {text : List Char} {index : Nat}
    (beyond : hiddenLength language text ≤ index) :
    (utf8 (sanitize language text))[index]? =
      ((utf8 text)[index]?).map fun byte => unifiedByte byte (utf8 text)[index + 1]? := by
  obtain ⟨more, rfl⟩ := Nat.exists_eq_add_of_le beyond
  rw [← List.getElem?_drop, drop_utf8_sanitize, getElem?_unifyBytes, List.getElem?_drop,
    List.getElem?_drop, Nat.add_assoc]

theorem unified_ne_carriageReturn (c : Char) (next : Option Char) : unified c next ≠ '\r' := by
  rw [unified]
  split
  · rename_i other
    exact bne_iff_ne.mp other
  · split <;> decide

theorem carriageReturn_not_mem_unify (text : List Char) : '\r' ∉ unify text := by
  induction text with
  | nil => exact List.not_mem_nil
  | cons c text ih =>
      rw [unify_cons]
      exact List.not_mem_cons_of_ne_of_not_mem (unified_ne_carriageReturn c _).symm ih

theorem carriageReturn_not_mem_sanitize (language : Language) (text : List Char) :
    '\r' ∉ sanitize language text := by
  rw [sanitize]
  split
  · rw [List.mem_append, not_or]
    refine ⟨?_, carriageReturn_not_mem_unify _⟩
    intro member
    exact absurd (List.eq_of_mem_replicate member) (by decide)
  · exact carriageReturn_not_mem_unify text

theorem unify_of_no_carriageReturn (text : List Char) (absent : '\r' ∉ text) :
    unify text = text := by
  induction text with
  | nil => rfl
  | cons c text ih =>
      have other : (c != '\r') = true :=
        bne_iff_ne.mpr (List.ne_of_not_mem_cons absent).symm
      rw [unify_cons, ih (List.not_mem_of_not_mem_cons absent), unified, if_pos other]

/-- A character that no carriage return is turned into stands where it stood. -/
theorem unified_eq_iff (c mark : Char) (next : Option Char) (visible : mark ∉ ['\r', ' ', '\n']) :
    unified c next = mark ↔ c = mark := by
  simp only [List.mem_cons, List.not_mem_nil, or_false, not_or] at visible
  obtain ⟨notReturn, notBlank, notFeed⟩ := visible
  by_cases carriage : c = '\r'
  · subst carriage
    have absent : unified '\r' next ≠ mark := by
      rw [unified]
      split
      · rename_i other
        exact absurd rfl (bne_iff_ne.mp other)
      · split
        · exact Ne.symm notBlank
        · exact Ne.symm notFeed
    exact iff_of_false absent (Ne.symm notReturn)
  · rw [unified, if_pos (bne_iff_ne.mpr carriage)]

theorem isPrefixOf_unify (lead text : List Char)
    (visible : ∀ mark ∈ lead, mark ∉ ['\r', ' ', '\n']) :
    lead.isPrefixOf (unify text) = lead.isPrefixOf text := by
  induction lead generalizing text with
  | nil => rw [List.isPrefixOf_nil_left, List.isPrefixOf_nil_left]
  | cons mark lead ih =>
      cases text with
      | nil => rfl
      | cons c text =>
          have same : (mark == unified c text.head?) = (mark == c) := by
            rw [Bool.eq_iff_iff, beq_iff_eq, beq_iff_eq, eq_comm,
              unified_eq_iff c mark _ (visible mark List.mem_cons_self), eq_comm]
          rw [unify_cons, List.isPrefixOf_cons_cons, List.isPrefixOf_cons_cons, same,
            ih text fun other member => visible other (List.mem_cons_of_mem mark member)]

theorem hasInterpreterLine_unify (text : List Char) :
    hasInterpreterLine (unify text) = hasInterpreterLine text := by
  rw [hasInterpreterLine, isPrefixOf_unify _ _ (by simp), isPrefixOf_unify _ _ (by simp),
    hasInterpreterLine]

theorem opening_ne_nil {text : List Char} (named : hasInterpreterLine text = true) :
    opening text ≠ [] := by
  rw [hasInterpreterLine, Bool.and_eq_true, List.isPrefixOf_iff_prefix] at named
  obtain ⟨rest, rfl⟩ := named.1
  exact List.cons_ne_nil _ _

/-- Sanitized text opens with no hidden line, for that is blank now. -/
theorem not_hasHiddenLine_sanitize (language : Language) (text : List Char) :
    ¬ HasHiddenLine language (sanitize language text) := by
  by_cases hidden : HasHiddenLine language text
  · have named := (Bool.and_eq_true_iff.mp hidden).2
    obtain ⟨c, line, opened⟩ := List.exists_cons_of_ne_nil (opening_ne_nil named)
    have some : Text.byteCount (opening text) ≠ 0 := by
      have positive := c.utf8Size_pos
      rw [Text.byteCount_eq_length, opened, Text.length_utf8_cons]
      omega
    obtain ⟨count, more⟩ := Nat.exists_eq_succ_of_ne_zero some
    intro again
    have blank := (Bool.and_eq_true_iff.mp again).2
    rw [sanitize_of_hidden_line hidden, blanks, more, List.replicate_succ] at blank
    exact absurd blank Bool.false_ne_true
  · intro again
    rw [HasHiddenLine, sanitize_of_no_hidden_line hidden, hasInterpreterLine_unify] at again
    exact hidden again

theorem sanitize_sanitize (language : Language) (text : List Char) :
    sanitize language (sanitize language text) = sanitize language text := by
  rw [sanitize_of_no_hidden_line (not_hasHiddenLine_sanitize language text),
    unify_of_no_carriageReturn _ (carriageReturn_not_mem_sanitize language text)]

theorem utf8Size_unified (c : Char) (next : Option Char) :
    (unified c next).utf8Size = c.utf8Size := by
  rw [unified]
  split
  · rfl
  · rename_i carriage
    rw [bne_iff_ne, ne_eq, not_not] at carriage
    subst carriage
    split <;> rfl

theorem map_utf8Size_unify (text : List Char) :
    (unify text).map Char.utf8Size = text.map Char.utf8Size := by
  induction text with
  | nil => rfl
  | cons c text ih => rw [unify_cons, List.map_cons, List.map_cons, utf8Size_unified, ih]

theorem isBoundary_unify (text : List Char) (offset : Nat) :
    IsBoundary (unify text) offset ↔ IsBoundary text offset := by
  rw [Text.isBoundary_iff_sizes, Text.isBoundary_iff_sizes, map_utf8Size_unify]

theorem isBoundary_blanks (text : List Char) (offset : Nat) :
    IsBoundary (blanks text) offset ↔ offset ≤ (utf8 text).length := by
  rw [Text.isBoundary_iff_sizes, blanks, Text.byteCount_eq_length, List.map_replicate]
  have sum (count : Nat) : (List.replicate count (' ').utf8Size).sum = count := by
    rw [List.sum_replicate_nat]
    exact Nat.mul_one count
  simp only [List.take_replicate, sum]
  constructor
  · rintro ⟨count, rfl⟩
    exact Nat.min_le_right _ _
  · exact fun inside => ⟨offset, Nat.min_eq_left inside⟩

theorem isBoundary_sanitize_iff (language : Language) (text : List Char) (offset : Nat) :
    IsBoundary (sanitize language text) offset ↔
      offset < hiddenLength language text ∨ IsBoundary text offset := by
  by_cases hidden : HasHiddenLine language text
  · have parts : text = opening text ++ afterOpening text := List.takeWhile_append_dropWhile.symm
    have whole := Text.isBoundary_append (opening text) (afterOpening text) offset
    rw [← parts] at whole
    rw [sanitize_of_hidden_line hidden, hiddenLength_of_hidden_line hidden,
      Text.isBoundary_append, isBoundary_blanks, utf8_blanks, List.length_replicate, whole]
    simp only [isBoundary_unify]
    constructor
    · rintro (inside | later)
      · rcases Nat.lt_or_eq_of_le inside with before | rfl
        · exact .inl before
        · exact .inr (.inl (Text.isBoundary_length (opening text)))
      · exact .inr (.inr later)
    · rintro (before | inside | later)
      · exact .inl (Nat.le_of_lt before)
      · exact .inl inside.le_length
      · exact .inr later
  · rw [sanitize_of_no_hidden_line hidden, isBoundary_unify, hiddenLength_of_no_hidden_line hidden]
    exact (or_iff_right (Nat.not_lt_zero offset)).symm

theorem forall₂_drop_utf8_sanitize {language : Language} {text : List Char} {first : Nat}
    (shown : hiddenLength language text ≤ first) :
    List.Forall₂ (fun byte other => byte ≠ 13 → other = byte) ((utf8 text).drop first)
      ((utf8 (sanitize language text)).drop first) := by
  obtain ⟨more, rfl⟩ := Nat.exists_eq_add_of_le shown
  rw [← List.drop_drop, ← List.drop_drop, drop_utf8_sanitize]
  exact List.forall₂_drop more (forall₂_unifyBytes _)

theorem exists_slices {language : Language} {text : List Char} {first last : Nat}
    (shown : hiddenLength language text ≤ first) (ordered : first ≤ last)
    (begins : IsBoundary (sanitize language text) first)
    (ends : IsBoundary (sanitize language text) last) :
    ∃ code cleaned, Text.sliceBytes? text first last = some code ∧
      Text.sliceBytes? (sanitize language text) first last = some cleaned ∧
      List.Forall₂ (fun byte other => byte ≠ 13 → other = byte) (utf8 code) (utf8 cleaned) := by
  have original {offset : Nat} (later : first ≤ offset)
      (boundary : IsBoundary (sanitize language text) offset) : IsBoundary text offset := by
    rcases (isBoundary_sanitize_iff language text offset).mp boundary with before | kept
    · exact absurd before (Nat.not_lt_of_le (Nat.le_trans shown later))
    · exact kept
  obtain ⟨code, cut⟩ := (Text.exists_sliceBytes?_iff text first last).mpr
    ⟨ordered, original (Nat.le_refl first) begins, original ordered ends⟩
  obtain ⟨cleaned, cut'⟩ := (Text.exists_sliceBytes?_iff _ first last).mpr ⟨ordered, begins, ends⟩
  refine ⟨code, cleaned, cut, cut', ?_⟩
  rw [Text.utf8_of_sliceBytes? cut, Text.utf8_of_sliceBytes? cut']
  exact List.forall₂_take _ (forall₂_drop_utf8_sanitize shown)

/-- Sanitizing keeps the offsets of every text. -/
theorem keepsOffsets (language : Language) (text : List Char) : KeepsOffsets language text where
  length := length_utf8_sanitize language text
  carriageless := carriageReturn_not_mem_sanitize language text
  again := sanitize_sanitize language text
  hidden _ inside := getElem?_utf8_sanitize_of_lt inside
  shown _ beyond := getElem?_utf8_sanitize_of_le beyond
  boundary := isBoundary_sanitize_iff language text
  slices _ _ shown ordered begins ends := exists_slices shown ordered begins ends

example : sanitize .javaScript "#!é\r\nf()\r".toList = "     \nf()\n".toList := by decide

end SourceIndex.LineEnds
