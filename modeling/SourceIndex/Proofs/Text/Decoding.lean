import SourceIndex.Proofs.Text.Sequences

/-
Bytes that may not be well formed have one reading as a text: each sequence of a character stands
for it, and each longest part of a sequence that breaks off, or byte that begins none, for one
replacement.
-/

set_option autoImplicit false

namespace SourceIndex.Text

theorem Begins.of_prefix {part whole : List UInt8} (begins : Begins whole)
    (shorter : part <+: whole) : Begins part := by
  obtain ⟨c, inside⟩ := begins
  exact ⟨c, shorter.trans inside⟩

theorem eq_of_prefix_utf8EncodeChar {c d : Char}
    (inside : String.utf8EncodeChar c <+: String.utf8EncodeChar d) : c = d := by
  obtain ⟨rest, whole⟩ := inside
  have first := ByteArray.utf8DecodeChar?_utf8EncodeChar_append (b := rest.toByteArray) (c := c)
  have second := ByteArray.utf8DecodeChar?_utf8EncodeChar_append (b := ByteArray.empty) (c := d)
  rw [← List.toByteArray_append, whole] at first
  rw [ByteArray.append_empty, first] at second
  exact Option.some.inj second

theorem utf8EncodeChar_append_inj {c d : Char} {rest later : List UInt8}
    (same : String.utf8EncodeChar c ++ rest = String.utf8EncodeChar d ++ later) :
    c = d ∧ rest = later := by
  have alike : c = d := by
    rcases List.prefix_or_prefix_of_prefix (List.prefix_append (String.utf8EncodeChar c) rest)
      (same ▸ List.prefix_append (String.utf8EncodeChar d) later) with inside | inside
    · exact eq_of_prefix_utf8EncodeChar inside
    · exact (eq_of_prefix_utf8EncodeChar inside).symm
  obtain rfl := alike
  exact ⟨rfl, List.append_cancel_left same⟩

/-- A part of bytes that one replacement stands for: no character is spelled where it begins, and it
is the longest part that begins the sequence of some character, or a byte that begins none. -/
structure Broken (part rest : List UInt8) : Prop where
  some : part ≠ []
  begins : part.length = 1 ∨ Begins part
  unspelled : ∀ c : Char, ¬ String.utf8EncodeChar c <+: part ++ rest
  longest : ∀ byte ∈ rest.head?, ¬ Begins (part ++ [byte])

/-- The readings of bytes as a text. -/
inductive Decodes : List UInt8 → List Char → Prop where
  | nil : Decodes [] []
  | char (c : Char) {rest : List UInt8} {text : List Char} :
      Decodes rest text → Decodes (String.utf8EncodeChar c ++ rest) (c :: text)
  | replaced {part rest : List UInt8} {text : List Char} :
      Broken part rest → Decodes rest text → Decodes (part ++ rest) (replacement :: text)

theorem decodes_utf8 (text : List Char) : Decodes (utf8 text) text := by
  induction text with
  | nil => exact .nil
  | cons c text ih =>
      rw [utf8_cons]
      exact .char c ih

theorem Broken.append_eq_nil {part rest more later : List UInt8} (broken : Broken part rest)
    (longer : Broken (part ++ more) later) (same : rest = more ++ later) : more = [] := by
  cases more with
  | nil => rfl
  | cons byte more =>
      have begins : Begins (part ++ byte :: more) := by
        refine longer.begins.resolve_left fun single => broken.some ?_
        rw [List.length_append, List.length_cons] at single
        exact List.eq_nil_of_length_eq_zero (by omega)
      rw [List.append_cons] at begins
      exact absurd (begins.of_prefix (List.prefix_append _ more)) (broken.longest byte (same ▸ rfl))

theorem Broken.unique {part rest other later : List UInt8} (broken : Broken part rest)
    (second : Broken other later) (same : part ++ rest = other ++ later) :
    part = other ∧ rest = later := by
  rcases List.append_eq_append_iff.mp same with ⟨more, rfl, left⟩ | ⟨more, rfl, left⟩
  · obtain rfl := broken.append_eq_nil second left
    exact ⟨(List.append_nil part).symm, left⟩
  · obtain rfl := second.append_eq_nil broken left
    exact ⟨List.append_nil other, left.symm⟩

theorem Decodes.unique {bytes : List UInt8} {text other : List Char} (decodes : Decodes bytes text)
    (second : Decodes bytes other) : text = other := by
  induction decodes generalizing other with
  | nil =>
      generalize whole : ([] : List UInt8) = bytes at second
      cases second with
      | nil => rfl
      | char c =>
          exact absurd (List.append_eq_nil_iff.mp whole.symm).1 String.utf8EncodeChar_ne_nil
      | replaced broken => exact absurd (List.append_eq_nil_iff.mp whole.symm).1 broken.some
  | char c decodes ih =>
      rename_i rest text
      generalize whole : String.utf8EncodeChar c ++ rest = bytes at second
      cases second with
      | nil => exact absurd (List.append_eq_nil_iff.mp whole).1 String.utf8EncodeChar_ne_nil
      | char d later =>
          obtain ⟨rfl, rfl⟩ := utf8EncodeChar_append_inj whole
          rw [ih later]
      | replaced broken =>
          exact absurd (whole ▸ List.prefix_append _ _) (broken.unspelled c)
  | replaced broken decodes ih =>
      rename_i part rest text
      generalize whole : part ++ rest = bytes at second
      cases second with
      | nil => exact absurd (List.append_eq_nil_iff.mp whole).1 broken.some
      | char d later =>
          exact absurd (whole ▸ List.prefix_append _ _) (broken.unspelled d)
      | replaced second later =>
          obtain ⟨-, rfl⟩ := broken.unique second whole
          rw [ih later]

def Follows : Option Pending → List UInt8 → Prop
  | none, opened => opened = []
  | some pending, opened => ∃ size, Opens size pending opened

/-- Bytes are read from a text on: some are passed on as characters, and the others are open. -/
def Advances (text : List Char) (bytes : List UInt8) (after : Decoding) : Prop :=
  ∃ passed opened, after.text = passed.reverse ++ text ∧ Follows after.pending opened ∧
    ∀ rest later, Decodes (opened ++ rest) later → Decodes (bytes ++ rest) (passed ++ later)

theorem Opens.some {size : Nat} {pending : Pending} {opened : List UInt8}
    (opens : Opens size pending opened) : opened ≠ [] := by
  rintro rfl
  have single : 'a'.utf8Size = size := ((opens.spelled 'a').mp List.nil_prefix).1
  have missing := opens.missing
  have inside := opens.inside
  have : 'a'.utf8Size = 1 := rfl
  omega

/-- An open sequence that does not go on is one part that breaks off. -/
theorem Opens.broken {size : Nat} {pending : Pending} {opened rest : List UInt8}
    (opens : Opens size pending opened)
    (stops : ∀ byte ∈ rest.head?, ¬ Begins (opened ++ [byte])) : Broken opened rest := by
  refine ⟨opens.some, opens.begins, fun c spelled => ?_, stops⟩
  rcases List.prefix_or_prefix_of_prefix spelled (List.prefix_append opened rest) with
    complete | begins
  · exact opens.incomplete c complete
  · have whole := opens.next begins
    have going : Begins (opened ++ [follower (c.toNat / 64 ^ (pending.missing - 1))]) :=
      ⟨c, whole ▸ List.prefix_append _ _⟩
    rw [whole, List.append_assoc, List.prefix_append_right_inj] at spelled
    obtain ⟨left, rfl⟩ := spelled
    exact stops _ rfl going

theorem broken_of_not_begins {byte : UInt8} (stray : ¬ Begins [byte]) (rest : List UInt8) :
    Broken [byte] rest := by
  refine ⟨List.cons_ne_nil _ _, .inl rfl, fun c spelled => stray ⟨c, ?_⟩, fun next _ begins => ?_⟩
  · have some : String.utf8EncodeChar c ≠ [] := String.utf8EncodeChar_ne_nil
    obtain ⟨first, more, whole⟩ := List.exists_cons_of_ne_nil some
    rw [whole, List.singleton_append, List.cons_prefix_cons] at spelled
    rw [whole, spelled.1]
    exact List.prefix_append [byte] more
  · exact stray (begins.of_prefix (List.prefix_append [byte] [next]))

theorem advances_start (text : List Char) (byte : UInt8) :
    Advances text [byte] (Decoding.start text byte) := by
  rw [Decoding.start]
  split
  · rename_i low
    refine ⟨[Char.ofNat byte.toNat], [], rfl, rfl, fun rest later decodes => ?_⟩
    rw [← utf8EncodeChar_ofNat_low (UInt8.lt_iff_toNat_lt.mp low)]
    exact .char _ decodes
  · rename_i high
    split
    · rename_i none
      refine ⟨[replacement], [], rfl, rfl, fun rest later decodes => ?_⟩
      have above : 0x80 ≤ byte.toNat := UInt8.le_iff_toNat_le.mp (UInt8.not_lt.mp high)
      exact .replaced (broken_of_not_begins (not_begins_of_no_lead above none) rest) decodes
    · rename_i lead found
      exact ⟨[], [byte], rfl, ⟨_, (leads_of_of? found).opens⟩, fun rest later decodes => decodes⟩

/-- What one byte does: it goes on with the open sequence, or breaks it off and starts anew. -/
theorem advances_step (decoding : Decoding) {opened : List UInt8} (byte : UInt8)
    (follows : Follows decoding.pending opened) :
    Advances decoding.text (opened ++ [byte]) (decoding.step byte) := by
  rw [Decoding.step]
  cases state : decoding.pending with
  | none =>
      rw [state] at follows
      obtain rfl := follows
      exact advances_start decoding.text byte
  | some pending =>
      rw [state] at follows
      obtain ⟨size, opens⟩ := follows
      simp only [Bool.and_eq_true, decide_eq_true_eq]
      split
      · rename_i taken
        split
        · rename_i last
          refine ⟨[_], [], rfl, rfl, fun rest later decodes => ?_⟩
          rw [← opens.ends taken last]
          exact .char _ decodes
        · rename_i more
          have stays := opens.step taken (Nat.lt_of_not_le more)
          exact ⟨[], _, rfl, ⟨_, stays⟩, fun rest later decodes => decodes⟩
      · rename_i refused
        obtain ⟨passed, next, text, following, decodes⟩ :=
          advances_start (replacement :: decoding.text) byte
        refine ⟨replacement :: passed, next, ?_, following, fun rest later inner => ?_⟩
        · rw [text, List.reverse_cons, List.append_assoc, List.singleton_append]
        · have broken : Broken opened (byte :: rest) := opens.broken fun other head => by
            rw [← Option.some.inj head, ← opens.range_iff]
            exact refused
          rw [List.append_assoc]
          exact .replaced broken (decodes rest later inner)

theorem advances_foldl (bytes : List UInt8) (decoding : Decoding) {opened : List UInt8}
    (follows : Follows decoding.pending opened) :
    Advances decoding.text (opened ++ bytes) (bytes.foldl Decoding.step decoding) := by
  induction bytes generalizing decoding opened with
  | nil =>
      rw [List.append_nil]
      exact ⟨[], opened, rfl, follows, fun rest later decodes => decodes⟩
  | cons byte bytes ih =>
      obtain ⟨first, next, text, following, decodes⟩ := advances_step decoding byte follows
      obtain ⟨second, last, text', following', decodes'⟩ := ih (decoding.step byte) following
      refine ⟨first ++ second, last, ?_, following', fun rest later inner => ?_⟩
      · rw [List.foldl_cons, text', text, List.reverse_append, List.append_assoc]
      · have middle := decodes' rest later inner
        rw [List.append_assoc] at middle
        rw [List.append_cons, List.append_assoc, List.append_assoc first]
        exact decodes (bytes ++ rest) _ middle

theorem exists_finish (decoding : Decoding) {opened : List UInt8}
    (follows : Follows decoding.pending opened) : ∃ last,
      decoding.finish = decoding.text.reverse ++ last ∧ Decodes (opened ++ []) last := by
  rw [Decoding.finish]
  cases state : decoding.pending with
  | none =>
      rw [state] at follows
      obtain rfl := follows
      exact ⟨[], (List.append_nil _).symm, .nil⟩
  | some pending =>
      rw [state] at follows
      obtain ⟨size, opens⟩ := follows
      have broken : Broken opened [] := opens.broken fun byte head => absurd head (by simp)
      exact ⟨[replacement], List.reverse_cons, .replaced broken .nil⟩

theorem decodes_decodeLossy (bytes : List UInt8) : Decodes bytes (decodeLossy bytes) := by
  obtain ⟨passed, opened, text, follows, decodes⟩ := advances_foldl bytes {} rfl
  obtain ⟨last, finish, ended⟩ := exists_finish _ follows
  have whole := decodes [] last ended
  rw [List.nil_append, List.append_nil] at whole
  rw [decodeLossy, finish, text, List.append_nil, List.reverse_reverse]
  exact whole

/-- Lossy decoding finds the one reading of the bytes. -/
theorem decodes_iff (bytes : List UInt8) (text : List Char) :
    Decodes bytes text ↔ text = decodeLossy bytes := by
  constructor
  · exact fun decodes => decodes.unique (decodes_decodeLossy bytes)
  · rintro rfl
    exact decodes_decodeLossy bytes

theorem decodeLossy_utf8 (text : List Char) : decodeLossy (utf8 text) = text :=
  ((decodes_iff _ _).mp (decodes_utf8 text)).symm

theorem text?_eq_some_iff (bytes : List UInt8) (text : String) :
    text? bytes = some text ↔ bytes = encode text := by
  simp only [text?]
  constructor
  · intro found
    split at found
    · rename_i same
      rw [← Option.some.inj found, encode_ofList, eq_of_beq same]
    · cases found
  · rintro rfl
    rw [encode_eq_utf8, decodeLossy_utf8, if_pos (beq_self_eq_true _), String.ofList_toList]

/-- Every byte belongs to a character, or to a part that a replacement stands for. -/
theorem Decodes.exists_mem {bytes : List UInt8} {text : List Char} (decodes : Decodes bytes text)
    {byte : UInt8} (inside : byte ∈ bytes) :
    ∃ c ∈ text, c = replacement ∨ byte ∈ String.utf8EncodeChar c := by
  induction decodes with
  | nil => cases inside
  | char c decodes ih =>
      rcases List.mem_append.mp inside with first | rest
      · exact ⟨c, List.mem_cons_self, .inr first⟩
      · obtain ⟨other, member, given⟩ := ih rest
        exact ⟨other, List.mem_cons_of_mem c member, given⟩
  | replaced broken decodes ih =>
      rcases List.mem_append.mp inside with first | rest
      · exact ⟨replacement, List.mem_cons_self, .inl rfl⟩
      · obtain ⟨other, member, given⟩ := ih rest
        exact ⟨other, List.mem_cons_of_mem _ member, given⟩

theorem Decodes.eq_nil {bytes : List UInt8} (decodes : Decodes bytes []) : bytes = [] := by
  cases decodes
  rfl

theorem decodeLossy_eq_nil_iff (bytes : List UInt8) : decodeLossy bytes = [] ↔ bytes = [] := by
  constructor
  · intro none
    have decodes := decodes_decodeLossy bytes
    rw [none] at decodes
    exact decodes.eq_nil
  · rintro rfl
    rfl

end SourceIndex.Text
