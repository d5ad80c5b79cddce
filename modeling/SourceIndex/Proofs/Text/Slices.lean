import Mathlib.Algebra.GroupWithZero.Nat
import SourceIndex.Proofs.Text.Bytes

set_option autoImplicit false

namespace SourceIndex.Text

theorem length_utf8_cons (c : Char) (text : List Char) :
    (utf8 (c :: text)).length = c.utf8Size + (utf8 text).length := by
  rw [utf8_cons, List.length_append, String.length_utf8EncodeChar]

theorem eq_nil_of_length_utf8 (text : List Char) (empty : (utf8 text).length = 0) : text = [] := by
  cases text with
  | nil => rfl
  | cons c text =>
      have positive := c.utf8Size_pos
      rw [length_utf8_cons] at empty
      omega

theorem dropBytes?_eq_some_iff (count : Nat) (text rest : List Char) :
    dropBytes? count text = some rest ↔
      ∃ before, text = before ++ rest ∧ (utf8 before).length = count := by
  induction text generalizing count with
  | nil =>
      rw [dropBytes?]
      constructor
      · intro dropped
        split at dropped
        · rename_i none
          cases dropped
          exact ⟨[], rfl, (eq_of_beq none).symm⟩
        · cases dropped
      · rintro ⟨before, parts, rfl⟩
        obtain ⟨rfl, rfl⟩ := List.append_eq_nil_iff.mp parts.symm
        rfl
  | cons c text ih =>
      have positive := c.utf8Size_pos
      rw [dropBytes?]
      by_cases none : count = 0
      · subst none
        constructor
        · intro dropped
          cases dropped
          exact ⟨[], rfl, rfl⟩
        · rintro ⟨before, parts, empty⟩
          rw [eq_nil_of_length_utf8 before empty, List.nil_append] at parts
          rw [parts]
          rfl
      · have some : ¬ (count == 0) = true := fun same => none (eq_of_beq same)
        rw [if_neg some]
        constructor
        · intro dropped
          split at dropped
          · obtain ⟨before, rfl, length⟩ := (ih _).mp dropped
            refine ⟨c :: before, rfl, ?_⟩
            rw [length_utf8_cons]
            omega
          · cases dropped
        · rintro ⟨_ | ⟨other, before⟩, parts, rfl⟩
          · exact absurd rfl none
          · obtain ⟨rfl, rfl⟩ := List.cons.inj parts
            rw [length_utf8_cons, if_pos (Nat.le_add_right _ _)]
            exact (ih _).mpr ⟨before, rfl, (Nat.add_sub_cancel_left _ _).symm⟩

theorem takeBytes?_eq_some_iff (count : Nat) (text taken code : List Char) :
    takeBytes? count text taken = some code ↔
      ∃ front after, text = front ++ after ∧ (utf8 front).length = count ∧
        code = taken.reverse ++ front := by
  induction text generalizing count taken with
  | nil =>
      rw [takeBytes?]
      constructor
      · intro cut
        split at cut
        · rename_i none
          cases cut
          exact ⟨[], [], rfl, (eq_of_beq none).symm, (List.append_nil _).symm⟩
        · cases cut
      · rintro ⟨front, after, parts, rfl, rfl⟩
        obtain ⟨rfl, rfl⟩ := List.append_eq_nil_iff.mp parts.symm
        rw [List.append_nil]
        rfl
  | cons c text ih =>
      have positive := c.utf8Size_pos
      rw [takeBytes?]
      by_cases none : count = 0
      · subst none
        constructor
        · intro cut
          cases cut
          exact ⟨[], c :: text, rfl, rfl, (List.append_nil _).symm⟩
        · rintro ⟨front, after, parts, empty, rfl⟩
          rw [eq_nil_of_length_utf8 front empty, List.append_nil]
          rfl
      · have some : ¬ (count == 0) = true := fun same => none (eq_of_beq same)
        rw [if_neg some]
        constructor
        · intro cut
          split at cut
          · obtain ⟨front, after, rfl, length, rfl⟩ := (ih _ _).mp cut
            refine ⟨c :: front, after, rfl, ?_, ?_⟩
            · rw [length_utf8_cons]
              omega
            · rw [List.reverse_cons, List.append_assoc, List.singleton_append]
          · cases cut
        · rintro ⟨_ | ⟨other, front⟩, after, parts, rfl, rfl⟩
          · exact absurd rfl none
          · obtain ⟨rfl, rfl⟩ := List.cons.inj parts
            rw [length_utf8_cons, if_pos (Nat.le_add_right _ _)]
            refine (ih _ _).mpr ⟨front, after, rfl, (Nat.add_sub_cancel_left _ _).symm, ?_⟩
            rw [List.reverse_cons, List.append_assoc, List.singleton_append]

/-- The part between two offsets is what stands there if the text falls into three at them. -/
theorem sliceBytes?_eq_some_iff (text code : List Char) (first last : Nat) :
    sliceBytes? text first last = some code ↔
      ∃ before after, text = before ++ code ++ after ∧ (utf8 before).length = first ∧
        first + (utf8 code).length = last := by
  rw [sliceBytes?]
  constructor
  · intro cut
    split at cut
    · rename_i ordered
      obtain ⟨rest, dropped, taken⟩ := Option.bind_eq_some_iff.mp cut
      obtain ⟨before, rfl, length⟩ := (dropBytes?_eq_some_iff first text rest).mp dropped
      obtain ⟨front, after, rfl, size, rfl⟩ := (takeBytes?_eq_some_iff _ rest [] code).mp taken
      exact ⟨before, after, (List.append_assoc _ _ _).symm, length, by omega⟩
    · cases cut
  · rintro ⟨before, after, rfl, rfl, rfl⟩
    rw [if_pos (Nat.le_add_right _ _), Nat.add_sub_cancel_left, Option.bind_eq_some_iff]
    refine ⟨code ++ after, (dropBytes?_eq_some_iff _ _ _).mpr ⟨before, ?_, rfl⟩, ?_⟩
    · rw [List.append_assoc]
    · exact (takeBytes?_eq_some_iff _ _ _ _).mpr ⟨code, after, rfl, rfl, rfl⟩

/-- Of two beginnings of a text, the one with no more bytes is a beginning of the other. -/
theorem prefix_of_length_utf8_le {text front other : List Char} (begins : front <+: text)
    (begins' : other <+: text) (short : (utf8 front).length ≤ (utf8 other).length) :
    front <+: other := by
  rcases List.prefix_or_prefix_of_prefix begins begins' with shorter | ⟨more, rfl⟩
  · exact shorter
  · rw [utf8_append, List.length_append] at short
    obtain rfl := eq_nil_of_length_utf8 more (by omega)
    exact ⟨[], by rw [List.append_nil, List.append_nil]⟩

/-- A part that lies in another one is cut out of it at the difference of the offsets. -/
theorem sliceBytes?_within {text outer inner : List Char} {first last first' last' : Nat}
    (cut : sliceBytes? text first last = some outer)
    (cut' : sliceBytes? text first' last' = some inner) (later : first ≤ first')
    (sooner : last' ≤ last) : sliceBytes? outer (first' - first) (last' - first) = some inner := by
  obtain ⟨before, after, parts, rfl, rfl⟩ := (sliceBytes?_eq_some_iff _ _ _ _).mp cut
  obtain ⟨before', after', parts', rfl, rfl⟩ := (sliceBytes?_eq_some_iff _ _ _ _).mp cut'
  have ends : before ++ outer <+: text := ⟨after, parts.symm⟩
  have ends' : before' ++ inner <+: text := ⟨after', parts'.symm⟩
  obtain ⟨lead, rfl⟩ : before <+: before' :=
    prefix_of_length_utf8_le ((List.prefix_append _ _).trans ends)
      ((List.prefix_append _ _).trans ends') later
  obtain ⟨trail, whole⟩ : before ++ lead ++ inner <+: before ++ outer := by
    refine prefix_of_length_utf8_le ends' ends ?_
    simpa only [utf8_append, List.length_append] using sooner
  rw [List.append_assoc, List.append_assoc, List.append_cancel_left_eq] at whole
  refine (sliceBytes?_eq_some_iff _ _ _ _).mpr ⟨lead, trail, ?_, ?_, ?_⟩
  · rw [← whole, List.append_assoc]
  · rw [utf8_append, List.length_append]
    omega
  · rw [utf8_append, List.length_append]
    omega

/-- Whether the offset is the end of a number of characters of the text. -/
def IsBoundary (text : List Char) (offset : Nat) : Prop :=
  ∃ front back, text = front ++ back ∧ (utf8 front).length = offset

theorem isBoundary_length (text : List Char) : IsBoundary text (utf8 text).length :=
  ⟨text, [], (List.append_nil text).symm, rfl⟩

theorem IsBoundary.le_length {text : List Char} {offset : Nat} (boundary : IsBoundary text offset) :
    offset ≤ (utf8 text).length := by
  obtain ⟨front, back, rfl, rfl⟩ := boundary
  rw [utf8_append, List.length_append]
  exact Nat.le_add_right _ _

/-- A part can be cut out between any two boundaries, and nowhere else. -/
theorem exists_sliceBytes?_iff (text : List Char) (first last : Nat) :
    (∃ code, sliceBytes? text first last = some code) ↔
      first ≤ last ∧ IsBoundary text first ∧ IsBoundary text last := by
  simp only [sliceBytes?_eq_some_iff]
  constructor
  · rintro ⟨code, before, after, rfl, rfl, rfl⟩
    refine ⟨Nat.le_add_right _ _, ⟨before, code ++ after, List.append_assoc _ _ _, rfl⟩,
      ⟨before ++ code, after, rfl, ?_⟩⟩
    rw [utf8_append, List.length_append]
  · rintro ⟨ordered, ⟨before, rest, parts, rfl⟩, ⟨whole, after, rfl, rfl⟩⟩
    obtain ⟨code, rfl⟩ : before <+: whole :=
      prefix_of_length_utf8_le ⟨rest, parts.symm⟩ (List.prefix_append _ _) ordered
    exact ⟨code, before, after, rfl, rfl, by rw [utf8_append, List.length_append]⟩

/-- The bytes of a part are those that the text has between the two offsets. -/
theorem utf8_of_sliceBytes? {text code : List Char} {first last : Nat}
    (cut : sliceBytes? text first last = some code) :
    utf8 code = ((utf8 text).drop first).take (last - first) := by
  obtain ⟨before, after, rfl, rfl, rfl⟩ := (sliceBytes?_eq_some_iff _ _ _ _).mp cut
  rw [utf8_append, utf8_append, List.append_assoc, List.drop_left, Nat.add_sub_cancel_left,
    List.take_left]

theorem isBoundary_append (front back : List Char) (offset : Nat) :
    IsBoundary (front ++ back) offset ↔
      IsBoundary front offset ∨
        ∃ more, IsBoundary back more ∧ offset = (utf8 front).length + more := by
  constructor
  · rintro ⟨before, after, parts, rfl⟩
    rcases List.append_eq_append_iff.mp parts with ⟨lead, rfl, rfl⟩ | ⟨lead, rfl, rfl⟩
    · refine .inr ⟨(utf8 lead).length, ⟨lead, after, rfl, rfl⟩, ?_⟩
      rw [utf8_append, List.length_append]
    · exact .inl ⟨before, lead, rfl, rfl⟩
  · rintro (⟨before, after, rfl, rfl⟩ | ⟨more, ⟨before, after, rfl, rfl⟩, rfl⟩)
    · exact ⟨before, after ++ back, List.append_assoc _ _ _, rfl⟩
    · exact ⟨front ++ before, after, (List.append_assoc _ _ _).symm, by
        rw [utf8_append, List.length_append]⟩

theorem length_utf8_eq_sum (text : List Char) :
    (utf8 text).length = (text.map Char.utf8Size).sum := by
  induction text with
  | nil => rfl
  | cons c text ih => rw [length_utf8_cons, ih, List.map_cons, List.sum_cons]

/-- The boundaries of a text depend on the sizes of its characters alone. -/
theorem isBoundary_iff_sizes (text : List Char) (offset : Nat) :
    IsBoundary text offset ↔ ∃ count, ((text.map Char.utf8Size).take count).sum = offset := by
  constructor
  · rintro ⟨front, back, rfl, rfl⟩
    refine ⟨front.length, ?_⟩
    rw [length_utf8_eq_sum, List.map_append, List.take_left' (List.length_map _)]
  · rintro ⟨count, rfl⟩
    refine ⟨text.take count, text.drop count, (List.take_append_drop count text).symm, ?_⟩
    rw [length_utf8_eq_sum, List.map_take]

end SourceIndex.Text
