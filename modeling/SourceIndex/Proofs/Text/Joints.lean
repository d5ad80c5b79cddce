import SourceIndex.Text.Search

set_option autoImplicit false

namespace SourceIndex.Text

variable {α : Type} (separator : α) (front back : List α)

/-- What has the separator only at its ends does not reach over the joint. -/
theorem infix_joint (part : List α) (inside : separator ∉ part.tail.dropLast) :
    part <:+: front ++ separator :: back ↔
      part <:+: front ++ [separator] ∨ part <:+: separator :: back := by
  constructor
  · rintro ⟨before, after, whole⟩
    rw [List.append_assoc, List.append_eq_append_iff] at whole
    rcases whole with ⟨lead, rfl, rest⟩ | ⟨lead, rfl, rest⟩
    -- The part begins before the joint; it may end before it, with it or after it.
    · rw [List.append_eq_append_iff] at rest
      rcases rest with ⟨later, rfl, -⟩ | ⟨later, rfl, rest⟩
      · exact .inl ⟨before, later ++ [separator], by simp only [List.append_assoc]⟩
      · cases later with
        | nil => exact .inl ⟨before, [separator], by simp only [List.append_assoc, List.append_nil]⟩
        | cons c later =>
            obtain ⟨rfl, rfl⟩ := List.cons.inj rest
            cases lead with
            | nil => exact .inr ⟨[], after, rfl⟩
            | cons first lead =>
                rcases List.eq_nil_or_concat later with rfl | ⟨middle, last, rfl⟩
                · exact .inl ⟨before, [], by simp only [List.append_assoc, List.append_nil]⟩
                · rw [List.concat_eq_append] at inside
                  have apart : (first :: lead ++ separator :: (middle ++ [last])).tail.dropLast =
                      lead ++ separator :: middle := by
                    rw [List.cons_append, List.tail_cons, ← List.cons_append, ← List.append_assoc,
                      List.dropLast_concat]
                  rw [apart] at inside
                  exact absurd (List.mem_append_right lead List.mem_cons_self) inside
    · exact .inr ⟨lead, after, by rw [List.append_assoc, ← rest]⟩
  · rintro (first | second)
    · have longer : front ++ [separator] <:+: front ++ separator :: back :=
        ⟨[], back, by simp only [List.nil_append, List.append_assoc, List.singleton_append]⟩
      exact first.trans longer
    · exact second.trans (List.suffix_append front _).isInfix

theorem suffix_joint (part : List α) (absent : separator ∉ part) :
    part <:+ front ++ separator :: back ↔ part <:+ back := by
  constructor
  · rintro ⟨before, whole⟩
    rw [List.append_eq_append_iff] at whole
    rcases whole with ⟨lead, rfl, rest⟩ | ⟨lead, rfl, rest⟩
    · exact absurd (rest ▸ List.mem_append_right lead List.mem_cons_self) absent
    · cases lead with
      | nil =>
          rw [List.nil_append] at rest
          exact absurd (rest ▸ List.mem_cons_self) absent
      | cons c lead =>
          obtain ⟨rfl, rfl⟩ := List.cons.inj rest
          exact List.suffix_append lead part
  · intro short
    exact short.trans ((List.suffix_cons separator back).trans (List.suffix_append front _))

variable [BEq α]

theorem pieces_ne_nil (text : List α) : pieces separator text ≠ [] := by
  cases text with
  | nil => exact List.cons_ne_nil _ _
  | cons c text =>
      rw [pieces, List.foldr_cons]
      split
      · exact List.cons_ne_nil _ _
      · split <;> exact List.cons_ne_nil _ _

variable [LawfulBEq α]

theorem hasInfix_iff (part text : List α) : hasInfix part text = true ↔ part <:+: text := by
  induction text with
  | nil => rw [hasInfix, List.isEmpty_iff, List.infix_nil]
  | cons c text ih =>
      rw [hasInfix, Bool.or_eq_true, List.isPrefixOf_iff_prefix, ih, List.infix_cons_iff]

theorem lastPiece_joint :
    lastPiece separator (front ++ separator :: back) = lastPiece separator back := by
  have stops : (separator :: front.reverse).takeWhile (· != separator) = [] :=
    List.takeWhile_cons_of_neg (by simp only [bne_self_eq_false, Bool.false_eq_true,
      not_false_eq_true])
  rw [lastPiece, List.reverse_append, List.reverse_cons, List.append_assoc, List.singleton_append,
    List.takeWhile_append, stops, List.append_nil, lastPiece]
  split
  · rename_i whole
    rw [(List.takeWhile_prefix _).eq_of_length whole]
  · rfl

theorem lastPiece_of_not_mem (text : List α) (absent : separator ∉ text) :
    lastPiece separator text = text := by
  have passes : ∀ c ∈ text.reverse, (c != separator) = true := fun c inside =>
    bne_iff_ne.mpr fun same => absent (same ▸ List.mem_reverse.mp inside)
  rw [lastPiece, ← List.append_nil text.reverse, List.takeWhile_append_of_pos passes,
    List.takeWhile_nil, List.append_nil, List.reverse_reverse]

theorem not_mem_of_mem_pieces (text : List α) (piece : List α)
    (among : piece ∈ pieces separator text) : separator ∉ piece := by
  induction text generalizing piece with
  | nil =>
      rw [pieces, List.foldr_nil, List.mem_singleton] at among
      exact among ▸ List.not_mem_nil
  | cons c text ih =>
      obtain ⟨first, later, parts⟩ := List.exists_cons_of_ne_nil (pieces_ne_nil separator text)
      rw [parts] at ih
      simp only [pieces, List.foldr_cons] at parts among
      rw [parts] at among
      split at among
      · rcases List.mem_cons.mp among with rfl | inside
        · exact List.not_mem_nil
        · exact ih piece inside
      · rename_i other
        rcases List.mem_cons.mp among with rfl | inside
        · exact List.not_mem_cons_of_ne_of_not_mem (fun same => other (beq_iff_eq.mpr same.symm))
            (ih first List.mem_cons_self)
        · exact ih piece (List.mem_cons_of_mem first inside)

theorem pieces_of_not_mem (text : List α) (absent : separator ∉ text) :
    pieces separator text = [text] := by
  induction text with
  | nil => rfl
  | cons c text ih =>
      have other : (c == separator) = false :=
        beq_eq_false_iff_ne.mpr (Ne.symm (List.ne_of_not_mem_cons absent))
      have rest := ih (List.not_mem_of_not_mem_cons absent)
      simp only [pieces, List.foldr_cons, other, Bool.false_eq_true, ↓reduceIte] at rest ⊢
      rw [rest]

theorem pieces_joint :
    pieces separator (front ++ separator :: back) =
      pieces separator front ++ pieces separator back := by
  induction front with
  | nil =>
      rw [List.nil_append, pieces, List.foldr_cons, if_pos (beq_self_eq_true separator)]
      rfl
  | cons c front ih =>
      obtain ⟨first, later, parts⟩ := List.exists_cons_of_ne_nil (pieces_ne_nil separator front)
      simp only [pieces, List.cons_append, List.foldr_cons] at ih parts ⊢
      rw [ih, parts]
      split <;> rfl

end SourceIndex.Text
