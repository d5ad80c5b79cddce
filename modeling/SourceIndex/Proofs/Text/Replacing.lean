import SourceIndex.Text.Search

set_option autoImplicit false

namespace SourceIndex.Text

theorem toList_replaceAll (text part value : String) :
    (replaceAll text part value).toList =
      replaceFrom part.toList value.toList 0 text.toList := String.toList_ofList

theorem replaceFrom_skip (part value : List Char) (skip : Nat) (text : List Char) :
    replaceFrom part value skip text = replaceFrom part value 0 (text.drop skip) := by
  induction skip generalizing text with
  | zero => rfl
  | succ skip ih =>
      cases text with
      | nil => rfl
      | cons c text => exact ih text

variable (opening : Char) (part value : List Char)

theorem replaceFrom_occurrence (rest : List Char) :
    replaceFrom (opening :: part) value 0 (opening :: part ++ rest) =
      value ++ replaceFrom (opening :: part) value 0 rest := by
  have begins : (opening :: part).isPrefixOf (opening :: (part ++ rest)) = true :=
    List.isPrefixOf_iff_prefix.mpr (List.prefix_append (opening :: part) rest)
  rw [List.cons_append, replaceFrom, if_pos begins, replaceFrom_skip, List.length_cons,
    Nat.add_sub_cancel, List.drop_left]

theorem replaceFrom_cons_of_not_prefix (c : Char) (rest : List Char)
    (absent : ¬ part <+: c :: rest) :
    replaceFrom part value 0 (c :: rest) = c :: replaceFrom part value 0 rest := by
  rw [replaceFrom, if_neg fun begins => absent (List.isPrefixOf_iff_prefix.mp begins)]

/-- No occurrence begins where its first character does not stand. -/
theorem replaceFrom_append_of_not_mem (front rest : List Char) (absent : opening ∉ front) :
    replaceFrom (opening :: part) value 0 (front ++ rest) =
      front ++ replaceFrom (opening :: part) value 0 rest := by
  induction front with
  | nil => rfl
  | cons c front ih =>
      have other : ¬ opening :: part <+: c :: (front ++ rest) := fun begins =>
        List.ne_of_not_mem_cons absent (List.cons_prefix_cons.mp begins).1
      rw [List.cons_append, replaceFrom_cons_of_not_prefix _ _ _ _ other,
        ih (List.not_mem_of_not_mem_cons absent), List.cons_append]

end SourceIndex.Text
