import SourceIndex.Proofs.Text.Decoding

/-
A part that breaks off never takes in a byte below 0x80, so what stands before such a byte is read
on its own. The lines of a text are therefore those of its bytes, each decoded by itself.
-/

set_option autoImplicit false

namespace SourceIndex.Text

/-- A character with a number below 0x80, and its only byte. -/
structure Single (separator : Char) (byte : UInt8) : Prop where
  low : byte < 0x80
  same : separator.toNat = byte.toNat

theorem single_lineFeed : Single '\n' 10 := ⟨by decide, rfl⟩

theorem single_carriageReturn : Single '\r' 13 := ⟨by decide, rfl⟩

variable {separator : Char} {byte : UInt8}

theorem Single.mem_iff (single : Single separator byte) (c : Char) :
    byte ∈ String.utf8EncodeChar c ↔ c = separator := by
  rw [mem_utf8EncodeChar_low c byte single.low, ← single.same, Char.toNat_inj]

theorem Single.spelled (single : Single separator byte) :
    String.utf8EncodeChar separator = [byte] := by
  have small : separator.toNat < 0x80 := single.same ▸ UInt8.lt_iff_toNat_lt.mp single.low
  rw [utf8EncodeChar_low separator small, single.same, UInt8.ofNat_toNat]

theorem Single.ne_replacement (single : Single separator byte) : separator ≠ replacement := by
  rintro rfl
  have small := UInt8.lt_iff_toNat_lt.mp single.low
  rw [← single.same] at small
  exact absurd small (by decide)

/-- A character that is spelled with this byte among others is the one of the byte alone. -/
theorem Single.not_prefix (single : Single separator byte) {part : List UInt8} (some : part ≠ [])
    (c : Char) : ¬ part ++ [byte] <+: String.utf8EncodeChar c := by
  intro inside
  obtain rfl := (single.mem_iff c).mp (inside.mem List.mem_concat_self)
  have length := inside.length_le
  rw [single.spelled, List.length_append, List.length_singleton] at length
  exact some (List.eq_nil_of_length_eq_zero (by omega))

/-- A part that breaks off at the end also does before a byte below 0x80. -/
theorem Broken.before (single : Single separator byte) {part rest : List UInt8}
    (broken : Broken part rest) (back : List UInt8) : Broken part (rest ++ byte :: back) := by
  refine ⟨broken.some, broken.begins, fun c spelled => ?_, fun next head => ?_⟩
  · rw [← List.append_assoc] at spelled
    rcases List.prefix_or_prefix_of_prefix spelled (List.prefix_append (part ++ rest) _) with
      earlier | ⟨more, whole⟩
    · exact broken.unspelled c earlier
    · cases more with
      | nil => exact broken.unspelled c ⟨[], by rw [← whole, List.append_nil, List.append_nil]⟩
      | cons next more =>
          rw [← whole, List.prefix_append_right_inj, List.cons_prefix_cons] at spelled
          rw [spelled.1, List.append_cons] at whole
          exact single.not_prefix (List.append_ne_nil_of_left_ne_nil broken.some rest) c
            ⟨more, whole⟩
  · cases rest with
    | nil =>
        rintro ⟨c, inside⟩
        obtain rfl := Option.some.inj head
        exact single.not_prefix broken.some c inside
    | cons first rest => exact broken.longest next head

theorem Decodes.joint (single : Single separator byte) {front back : List UInt8}
    {text later : List Char} (before : Decodes front text) (after : Decodes back later) :
    Decodes (front ++ byte :: back) (text ++ separator :: later) := by
  induction before with
  | nil =>
      rw [List.nil_append, List.nil_append, ← List.singleton_append, ← single.spelled]
      exact .char separator after
  | char c decodes ih =>
      rw [List.append_assoc]
      exact .char c ih
  | replaced broken decodes ih =>
      rw [List.append_assoc]
      exact .replaced (broken.before single back) ih

theorem Decodes.mem_of_mem (single : Single separator byte) {bytes : List UInt8}
    {text : List Char} (decodes : Decodes bytes text) (inside : separator ∈ text) :
    byte ∈ bytes := by
  induction decodes with
  | nil => exact absurd inside List.not_mem_nil
  | char c decodes ih =>
      rcases List.mem_cons.mp inside with rfl | inside
      · exact List.mem_append_left _ ((single.mem_iff separator).mpr rfl)
      · exact List.mem_append_right _ (ih inside)
  | replaced broken decodes ih =>
      rcases List.mem_cons.mp inside with same | inside
      · exact absurd same single.ne_replacement
      · exact List.mem_append_right _ (ih inside)

/-- Bytes before and after one below 0x80 are decoded by themselves. -/
theorem decodeLossy_joint (single : Single separator byte) (front back : List UInt8) :
    decodeLossy (front ++ byte :: back) =
      decodeLossy front ++ separator :: decodeLossy back := by
  have before := decodes_decodeLossy front
  have after := decodes_decodeLossy back
  exact ((decodes_iff _ _).mp (before.joint single after)).symm

theorem not_mem_decodeLossy (single : Single separator byte) {bytes : List UInt8}
    (absent : byte ∉ bytes) : separator ∉ decodeLossy bytes :=
  fun inside => absent ((decodes_decodeLossy bytes).mem_of_mem single inside)

/-- Decoding the pieces between separators gives the pieces of the decoded text. -/
theorem map_decodeLossy_splitOn (single : Single separator byte) (bytes : List UInt8) :
    (bytes.splitOn byte).map decodeLossy = (decodeLossy bytes).splitOn separator := by
  induction size : bytes.length using Nat.strongRecOn generalizing bytes with
  | ind length ih =>
      by_cases inside : byte ∈ bytes
      · obtain ⟨front, back, rfl, absent⟩ := List.eq_append_cons_of_mem inside
        have shorter : back.length < length := by
          rw [← size, List.length_append, List.length_cons]
          omega
        rw [List.splitOn_append_cons_self_of_not_mem absent, List.map_cons,
          ih _ shorter back rfl, decodeLossy_joint single,
          List.splitOn_append_cons_self_of_not_mem (not_mem_decodeLossy single absent)]
      · rw [List.splitOn_eq_singleton inside, List.splitOn_eq_singleton
          (not_mem_decodeLossy single inside)]
        rfl

/-- What ends a line: a line feed, a carriage return and a line feed, or a carriage return that no
line feed follows. -/
inductive LineEnd where
  | feed
  | carriageFeed
  | carriage
deriving DecidableEq

section EndedLines

variable {α : Type} (feed carriage : α)

/-- A text in which no line ends. -/
def Plain (front : List α) : Prop := feed ∉ front ∧ carriage ∉ front

/-- A text as its lines, with what ends each. -/
inductive Lined : List α → Prop where
  | unended (front : List α) : Plain feed carriage front → Lined front
  | feed (front : List α) {back : List α} :
      Plain feed carriage front → Lined back → Lined (front ++ feed :: back)
  | carriageFeed (front : List α) {back : List α} :
      Plain feed carriage front → Lined back → Lined (front ++ carriage :: feed :: back)
  | carriage (front : List α) {back : List α} :
      Plain feed carriage front → back.head? ≠ some feed → Lined back →
        Lined (front ++ carriage :: back)

variable {feed carriage} {front : List α}

theorem plain_nil : Plain feed carriage [] := ⟨List.not_mem_nil, List.not_mem_nil⟩

theorem Plain.cons {c : α} (plain : Plain feed carriage front) (fed : c ≠ feed)
    (returned : c ≠ carriage) : Plain feed carriage (c :: front) :=
  ⟨List.not_mem_cons_of_ne_of_not_mem fed.symm plain.1,
    List.not_mem_cons_of_ne_of_not_mem returned.symm plain.2⟩

variable [DecidableEq α]

variable (feed carriage) in
/-- The lines of a text and what ends them. What is left after the last end is a line without one,
which may be empty. -/
def endedLines : List α → List (List α × Option LineEnd)
  | [] => [([], none)]
  | c :: rest =>
    if c = feed then ([], some .feed) :: endedLines rest
    else if c = carriage then
      match rest with
      | [] => [([], some .carriage), ([], none)]
      | d :: later =>
        if d = feed then ([], some .carriageFeed) :: endedLines later
        else ([], some .carriage) :: endedLines (d :: later)
    else (endedLines rest).modifyHead fun line => (c :: line.1, line.2)

theorem endedLines_cons_feed (back : List α) : endedLines feed carriage (feed :: back) =
    ([], some .feed) :: endedLines feed carriage back := by
  rw [endedLines.eq_def]
  exact if_pos rfl

theorem endedLines_cons_plain {c : α} (fed : c ≠ feed) (returned : c ≠ carriage) (back : List α) :
    endedLines feed carriage (c :: back) =
      (endedLines feed carriage back).modifyHead fun line => (c :: line.1, line.2) := by
  rw [endedLines.eq_def]
  exact (if_neg fed).trans (if_neg returned)

theorem endedLines_cons_carriageFeed (distinct : carriage ≠ feed) (back : List α) :
    endedLines feed carriage (carriage :: feed :: back) =
      ([], some .carriageFeed) :: endedLines feed carriage back := by
  rw [endedLines, if_neg distinct, if_pos rfl, if_pos rfl]

theorem endedLines_cons_carriage (distinct : carriage ≠ feed) {back : List α}
    (alone : back.head? ≠ some feed) : endedLines feed carriage (carriage :: back) =
      ([], some .carriage) :: endedLines feed carriage back := by
  cases back with
  | nil => simp only [endedLines, if_neg distinct, ↓reduceIte]
  | cons d later =>
      have other : d ≠ feed := fun same => alone (congrArg some same)
      rw [endedLines, if_neg distinct, if_pos rfl, if_neg other]

theorem endedLines_append (plain : Plain feed carriage front) (rest : List α) :
    endedLines feed carriage (front ++ rest) =
      (endedLines feed carriage rest).modifyHead fun line => (front ++ line.1, line.2) := by
  induction front with
  | nil => exact (congrFun List.modifyHead_id _).symm
  | cons c front ih =>
      have fed := List.ne_of_not_mem_cons plain.1
      have returned := List.ne_of_not_mem_cons plain.2
      have later := ih ⟨List.not_mem_of_not_mem_cons plain.1, List.not_mem_of_not_mem_cons plain.2⟩
      rw [List.cons_append, endedLines_cons_plain fed.symm returned.symm, later,
        List.modifyHead_modifyHead]
      rfl

theorem endedLines_plain (plain : Plain feed carriage front) :
    endedLines feed carriage front = [(front, none)] := by
  have whole := endedLines_append plain []
  rw [List.append_nil] at whole
  rw [whole, endedLines, List.modifyHead_cons, List.append_nil]

theorem endedLines_feed (plain : Plain feed carriage front) (back : List α) :
    endedLines feed carriage (front ++ feed :: back) =
      (front, some .feed) :: endedLines feed carriage back := by
  rw [endedLines_append plain, endedLines_cons_feed, List.modifyHead_cons, List.append_nil]

theorem endedLines_carriageFeed (distinct : carriage ≠ feed) (plain : Plain feed carriage front)
    (back : List α) : endedLines feed carriage (front ++ carriage :: feed :: back) =
      (front, some .carriageFeed) :: endedLines feed carriage back := by
  rw [endedLines_append plain, endedLines_cons_carriageFeed distinct, List.modifyHead_cons,
    List.append_nil]

theorem endedLines_carriage (distinct : carriage ≠ feed) (plain : Plain feed carriage front)
    {back : List α} (alone : back.head? ≠ some feed) :
    endedLines feed carriage (front ++ carriage :: back) =
      (front, some .carriage) :: endedLines feed carriage back := by
  rw [endedLines_append plain, endedLines_cons_carriage distinct alone, List.modifyHead_cons,
    List.append_nil]

variable (feed carriage) in
theorem lined (text : List α) : Lined feed carriage text := by
  induction text using endedLines.induct feed carriage with
  | case1 => exact .unended [] plain_nil
  | case2 back ih => exact .feed [] plain_nil ih
  | case3 => exact .carriage [] plain_nil nofun (.unended [] plain_nil)
  | case4 back distinct ih => exact .carriageFeed [] plain_nil ih
  | case5 d back other distinct ih =>
      exact .carriage [] plain_nil (fun same => other (Option.some.inj same)) ih
  | case6 c back fed returned ih =>
      cases ih with
      | unended _ plain => exact .unended (c :: back) (plain.cons fed returned)
      | feed front plain rest => exact .feed (c :: front) (plain.cons fed returned) rest
      | carriageFeed front plain rest =>
          exact .carriageFeed (c :: front) (plain.cons fed returned) rest
      | carriage front plain alone rest =>
          exact .carriage (c :: front) (plain.cons fed returned) alone rest

end EndedLines

theorem head?_decodeLossy (single : Single separator byte) {bytes : List UInt8}
    (other : bytes.head? ≠ some byte) : (decodeLossy bytes).head? ≠ some separator := by
  intro same
  have decodes := decodes_decodeLossy bytes
  generalize decodeLossy bytes = text at decodes same
  cases decodes with
  | nil => cases same
  | char c rest =>
      obtain rfl := Option.some.inj same
      rw [single.spelled] at other
      exact other rfl
  | replaced broken rest => exact single.ne_replacement (Option.some.inj same).symm

theorem Plain.decoded {front : List UInt8} (plain : Plain 10 13 front) :
    Plain '\n' '\r' (decodeLossy front) :=
  ⟨not_mem_decodeLossy single_lineFeed plain.1, not_mem_decodeLossy single_carriageReturn plain.2⟩

/-- The lines of decoded bytes are the lines of the bytes, each decoded by itself, with the same
ends. -/
theorem endedLines_decodeLossy (bytes : List UInt8) :
    endedLines '\n' '\r' (decodeLossy bytes) =
      (endedLines 10 13 bytes).map fun line => (decodeLossy line.1, line.2) := by
  have distinct : '\r' ≠ '\n' := by decide
  have apart : (13 : UInt8) ≠ 10 := by decide
  induction lined 10 13 bytes with
  | unended front plain =>
      rw [endedLines_plain plain, endedLines_plain plain.decoded]
      rfl
  | feed front plain rest ih =>
      rw [decodeLossy_joint single_lineFeed, endedLines_feed plain, endedLines_feed plain.decoded,
        ih]
      rfl
  | carriageFeed front plain rest ih =>
      rename_i back
      have tail : decodeLossy (10 :: back) = '\n' :: decodeLossy back :=
        decodeLossy_joint single_lineFeed [] back
      rw [decodeLossy_joint single_carriageReturn, tail, endedLines_carriageFeed apart plain,
        endedLines_carriageFeed distinct plain.decoded, ih]
      rfl
  | carriage front plain alone rest ih =>
      rw [decodeLossy_joint single_carriageReturn, endedLines_carriage apart plain alone,
        endedLines_carriage distinct plain.decoded (head?_decodeLossy single_lineFeed alone), ih]
      rfl

example : endedLines '\n' '\r' (decodeLossy [0xE2, 0x82, 13, 10, 0xF0, 0x9F, 13, 0xED]) =
    [([replacement], some .carriageFeed), ([replacement], some .carriage),
      ([replacement], none)] := by decide

/-- A text is read back from its bytes, and other bytes are read line by line: a replacement stands
for each part that breaks off, and no line end is moved, taken in or made up. -/
theorem decodeLossy_lineLocal :
    (∀ text : String, decodeLossy (encode text) = text.toList) ∧
      ∀ bytes : List UInt8,
        (∀ text, Decodes bytes text ↔ text = decodeLossy bytes) ∧
          (bytes.splitOn 10).map decodeLossy = (decodeLossy bytes).splitOn '\n' ∧
          (bytes.splitOn 13).map decodeLossy = (decodeLossy bytes).splitOn '\r' ∧
          endedLines '\n' '\r' (decodeLossy bytes) =
            (endedLines 10 13 bytes).map fun line => (decodeLossy line.1, line.2) := by
  constructor
  · intro text
    exact decodeLossy_utf8 text.toList
  · exact fun bytes => ⟨decodes_iff bytes, map_decodeLossy_splitOn single_lineFeed bytes,
      map_decodeLossy_splitOn single_carriageReturn bytes, endedLines_decodeLossy bytes⟩

end SourceIndex.Text
