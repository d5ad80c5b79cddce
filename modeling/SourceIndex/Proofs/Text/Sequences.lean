import Mathlib.Tactic.Positivity
import SourceIndex.Proofs.Text.Bytes

set_option autoImplicit false

namespace SourceIndex.Text

/-- A byte after the first one, with the last six bits of a number. -/
def follower (number : Nat) : UInt8 := UInt8.ofNat (number % 64 + 128)

/-- The last bytes of a sequence, which give the last bits of the number. -/
def followers : Nat → Nat → List UInt8
  | 0, _ => []
  | count + 1, number => follower (number / 64 ^ count) :: followers count number

theorem length_followers (count number : Nat) : (followers count number).length = count := by
  induction count with
  | zero => rfl
  | succ count ih => rw [followers, List.length_cons, ih]

theorem ne_of_rest {sequence opened : List UInt8} {count number : Nat} (more : 0 < count)
    (rest : opened <+: sequence → sequence = opened ++ followers count number) :
    sequence ≠ opened := by
  rintro rfl
  have length := congrArg List.length (rest List.prefix_rfl)
  rw [List.length_append, length_followers] at length
  omega

/-- The first byte of a sequence of two, three or four, with the first bits of the number. -/
def opening (size top : Nat) : UInt8 := UInt8.ofNat (256 - 2 ^ (8 - size) + top)

theorem toNat_follower (number : Nat) : (follower number).toNat = number % 64 + 128 :=
  UInt8.toNat_ofNat_of_lt' (by simp only [UInt8.size]; omega)

theorem toNat_valid (c : Char) : c.toNat < 0xD800 ∨ 0xDFFF < c.toNat ∧ c.toNat < 0x110000 := c.valid

theorem toNat_ofNat {number : Nat}
    (valid : number < 0xD800 ∨ 0xDFFF < number ∧ number < 0x110000) :
    (Char.ofNat number).toNat = number := by
  rw [Char.ofNat, dif_pos valid]
  rfl

theorem exists_char (number : Nat)
    (valid : number < 0xD800 ∨ 0xDFFF < number ∧ number < 0x110000) :
    ∃ c : Char, c.toNat = number := ⟨_, toNat_ofNat valid⟩

theorem utf8EncodeChar_ofNat_low {byte : UInt8} (low : byte.toNat < 0x80) :
    String.utf8EncodeChar (Char.ofNat byte.toNat) = [byte] := by
  have number : (Char.ofNat byte.toNat).toNat = byte.toNat := toNat_ofNat (by omega)
  rw [utf8EncodeChar_low _ (number.trans_lt low), number, UInt8.ofNat_toNat]

theorem utf8Size_cases (c : Char) :
    (c.utf8Size = 1 ∧ c.toNat < 0x80) ∨ (c.utf8Size = 2 ∧ 0x80 ≤ c.toNat ∧ c.toNat < 0x800) ∨
      (c.utf8Size = 3 ∧ 0x800 ≤ c.toNat ∧ c.toNat < 0x10000) ∨
        (c.utf8Size = 4 ∧ 0x10000 ≤ c.toNat) := by
  have one : c.val ≤ 0x7F ↔ c.toNat ≤ 0x7F := UInt32.le_iff_toNat_le
  have two : c.val ≤ 0x7FF ↔ c.toNat ≤ 0x7FF := UInt32.le_iff_toNat_le
  have three : c.val ≤ 0xFFFF ↔ c.toNat ≤ 0xFFFF := UInt32.le_iff_toNat_le
  have size : c.utf8Size = if c.val ≤ 0x7F then 1 else if c.val ≤ 0x7FF then 2
    else if c.val ≤ 0xFFFF then 3 else 4 := rfl
  simp only [one, two, three] at size
  split at size
  · omega
  · split at size
    · omega
    · split at size <;> omega

theorem utf8EncodeChar_eq_opening (c : Char) (long : 0x80 ≤ c.toNat) :
    String.utf8EncodeChar c = opening c.utf8Size (c.toNat / 64 ^ (c.utf8Size - 1)) ::
      followers (c.utf8Size - 1) c.toNat := by
  have value : c.val.toNat = c.toNat := rfl
  have range := toNat_valid c
  rw [String.utf8EncodeChar, value]
  rcases utf8Size_cases c with ⟨size, bounds⟩ | ⟨size, bounds⟩ | ⟨size, bounds⟩ | ⟨size, bounds⟩
  · omega
  · have top : c.toNat / 64 % 32 = c.toNat / 64 := Nat.mod_eq_of_lt (by omega)
    rw [size, if_neg (by omega), if_pos (by omega), top]
    simp [followers, follower, opening, Nat.add_comm]
  · have top : c.toNat / 4096 % 16 = c.toNat / 4096 := Nat.mod_eq_of_lt (by omega)
    rw [size, if_neg (by omega), if_neg (by omega), if_pos (by omega), top]
    simp [followers, follower, opening, Nat.add_comm]
  · have top : c.toNat / 262144 % 8 = c.toNat / 262144 := Nat.mod_eq_of_lt (by omega)
    rw [size, if_neg (by omega), if_neg (by omega), if_neg (by omega), top]
    simp [followers, follower, opening, Nat.add_comm]

/-- Whether some character of so many bytes has the number `top` before its last followers. -/
def Tops (size count top : Nat) : Prop :=
  ∃ c : Char, c.utf8Size = size ∧ c.toNat / 64 ^ count = top

theorem tops_two (top : Nat) : Tops 2 0 top ↔ 0x80 ≤ top ∧ top < 0x800 := by
  constructor
  · rintro ⟨c, size, rfl⟩
    have := utf8Size_cases c
    omega
  · intro bounds
    obtain ⟨c, number⟩ := exists_char top (by omega)
    refine ⟨c, ?_, by omega⟩
    have := utf8Size_cases c
    omega

theorem tops_three (top : Nat) : Tops 3 1 top ↔
    0x20 ≤ top ∧ top < 0x400 ∧ ¬ (0x360 ≤ top ∧ top < 0x380) := by
  constructor
  · rintro ⟨c, size, rfl⟩
    have := utf8Size_cases c
    have := toNat_valid c
    omega
  · intro bounds
    obtain ⟨c, number⟩ := exists_char (top * 64) (by omega)
    refine ⟨c, ?_, by omega⟩
    have := utf8Size_cases c
    omega

theorem tops_four (top : Nat) : Tops 4 2 top ↔ 0x10 ≤ top ∧ top < 0x110 := by
  constructor
  · rintro ⟨c, size, rfl⟩
    have := utf8Size_cases c
    have := toNat_valid c
    omega
  · intro bounds
    obtain ⟨c, number⟩ := exists_char (top * 4096) (by omega)
    refine ⟨c, ?_, by omega⟩
    have := utf8Size_cases c
    omega

/-- After its second byte a sequence can go on with any follower. -/
theorem Tops.next {size count top : Nat} (tops : Tops size (count + 1) top)
    (later : count + 2 < size) (bits : Nat) (small : bits < 64) :
    Tops size count (top * 64 + bits) := by
  obtain ⟨c, sized, rfl⟩ := tops
  have range := toNat_valid c
  have cases := utf8Size_cases c
  have forms : (size = 3 ∧ count = 0) ∨ (size = 4 ∧ count = 0) ∨ size = 4 ∧ count = 1 := by omega
  -- All numbers with the same bits so far are those of characters, and of one size.
  obtain ⟨d, number⟩ := exists_char ((c.toNat / 64 ^ (count + 1) * 64 + bits) * 64 ^ count) (by
    rcases forms with ⟨rfl, rfl⟩ | ⟨rfl, rfl⟩ | ⟨rfl, rfl⟩ <;> omega)
  refine ⟨d, ?_, by rw [number, Nat.mul_div_cancel _ (by positivity)]⟩
  have sizes := utf8Size_cases d
  rcases forms with ⟨rfl, rfl⟩ | ⟨rfl, rfl⟩ | ⟨rfl, rfl⟩ <;> omega

/-- Whether the sequence of some character begins with these bytes. -/
def Begins (part : List UInt8) : Prop := ∃ c : Char, part <+: String.utf8EncodeChar c

/-- A sequence of `size` bytes that is open after `opened`: the characters it can become are those
of its size whose numbers begin with the bits so far. -/
structure Opens (size : Nat) (pending : Pending) (opened : List UInt8) : Prop where
  missing : 0 < pending.missing
  inside : pending.missing < size
  begins : opened.length = 1 ∨ Begins opened
  incomplete : ∀ c : Char, ¬ String.utf8EncodeChar c <+: opened
  spelled : ∀ c : Char, opened <+: String.utf8EncodeChar c ↔
    c.utf8Size = size ∧ c.toNat / 64 ^ pending.missing = pending.bits
  rest : ∀ c : Char, opened <+: String.utf8EncodeChar c →
    String.utf8EncodeChar c = opened ++ followers pending.missing c.toNat
  range : ∀ byte : UInt8, (pending.least ≤ byte ∧ byte ≤ pending.greatest) ↔
    byte.toNat / 64 = 2 ∧
      Tops size (pending.missing - 1) (pending.bits * 64 + byte.toNat % 64)

theorem follows_iff (byte : UInt8) :
    ((0x80 : UInt8) ≤ byte ∧ byte ≤ (0xBF : UInt8)) ↔ byte.toNat / 64 = 2 := by
  have low : (0x80 : UInt8).toNat = 128 := rfl
  have high : (0xBF : UInt8).toNat = 191 := rfl
  rw [UInt8.le_iff_toNat_le, UInt8.le_iff_toNat_le, low, high]
  omega

theorem follower_eq_iff (number : Nat) (byte : UInt8) :
    follower number = byte ↔ byte.toNat / 64 = 2 ∧ number % 64 = byte.toNat % 64 := by
  have range := byte.toNat_lt
  rw [← UInt8.toNat_inj, toNat_follower]
  omega

theorem div_pow_succ (number count : Nat) :
    number / 64 ^ (count + 1) = number / 64 ^ count / 64 := by
  rw [Nat.pow_succ, Nat.div_div_eq_div_mul]

namespace Opens

variable {size : Nat} {pending : Pending} {opened : List UInt8}

/-- What an open sequence goes on with is told by the number of the character. -/
theorem next (opens : Opens size pending opened) {c : Char}
    (begins : opened <+: String.utf8EncodeChar c) :
    String.utf8EncodeChar c = opened ++ [follower (c.toNat / 64 ^ (pending.missing - 1))] ++
      followers (pending.missing - 1) c.toNat := by
  obtain ⟨count, missing⟩ := Nat.exists_eq_add_of_lt opens.missing
  rw [opens.rest c begins, missing, Nat.zero_add, Nat.add_sub_cancel, followers, List.append_assoc,
    List.singleton_append]

theorem follower_eq (opens : Opens size pending opened) {byte : UInt8} {c : Char}
    (goes : opened ++ [byte] <+: String.utf8EncodeChar c) :
    follower (c.toNat / 64 ^ (pending.missing - 1)) = byte := by
  rw [opens.next ((List.prefix_append opened [byte]).trans goes), List.append_assoc,
    List.prefix_append_right_inj, List.singleton_append, List.cons_prefix_cons] at goes
  exact goes.1.symm

/-- The characters that an open sequence can become with one more byte. -/
theorem goes_on_iff (opens : Opens size pending opened) (byte : UInt8) (c : Char) :
    opened ++ [byte] <+: String.utf8EncodeChar c ↔ byte.toNat / 64 = 2 ∧ c.utf8Size = size ∧
      c.toNat / 64 ^ (pending.missing - 1) = pending.bits * 64 + byte.toNat % 64 := by
  have higher : c.toNat / 64 ^ pending.missing = c.toNat / 64 ^ (pending.missing - 1) / 64 := by
    rw [← div_pow_succ, Nat.sub_add_cancel opens.missing]
  constructor
  · intro goes
    obtain ⟨sized, top⟩ := (opens.spelled c).mp ((List.prefix_append opened [byte]).trans goes)
    obtain ⟨form, low⟩ := (follower_eq_iff _ byte).mp (opens.follower_eq goes)
    exact ⟨form, sized, by omega⟩
  · rintro ⟨form, sized, top⟩
    rw [opens.next ((opens.spelled c).mpr ⟨sized, by omega⟩),
      (follower_eq_iff _ byte).mpr ⟨form, by omega⟩]
    exact List.prefix_append _ _

theorem rest_of_goes_on (opens : Opens size pending opened) {byte : UInt8} {c : Char}
    (goes : opened ++ [byte] <+: String.utf8EncodeChar c) : String.utf8EncodeChar c =
      opened ++ [byte] ++ followers (pending.missing - 1) c.toNat := by
  rw [opens.next ((List.prefix_append opened [byte]).trans goes), opens.follower_eq goes]

/-- An open sequence takes the bytes that some character goes on with. -/
theorem range_iff (opens : Opens size pending opened) (byte : UInt8) :
    (pending.least ≤ byte ∧ byte ≤ pending.greatest) ↔ Begins (opened ++ [byte]) := by
  rw [opens.range, Tops, Begins]
  simp only [opens.goes_on_iff, exists_and_left]

theorem ends (opens : Opens size pending opened) {byte : UInt8}
    (taken : pending.least ≤ byte ∧ byte ≤ pending.greatest) (last : pending.missing ≤ 1) :
    String.utf8EncodeChar (Char.ofNat (pending.bits * 64 + byte.toNat % 64)) =
      opened ++ [byte] := by
  obtain ⟨c, goes⟩ := (opens.range_iff byte).mp taken
  obtain ⟨-, -, number⟩ := (opens.goes_on_iff byte c).mp goes
  have whole := opens.rest_of_goes_on goes
  rw [Nat.sub_eq_zero_of_le last] at number whole
  rw [← number, Nat.pow_zero, Nat.div_one, Char.ofNat_toNat, whole, followers, List.append_nil]

theorem step (opens : Opens size pending opened) {byte : UInt8}
    (taken : pending.least ≤ byte ∧ byte ≤ pending.greatest) (more : 1 < pending.missing) :
    Opens size ⟨pending.missing - 1, 0x80, 0xBF, pending.bits * 64 + byte.toNat % 64⟩
      (opened ++ [byte]) := by
  obtain ⟨form, tops⟩ := (opens.range byte).mp taken
  constructor
  · exact Nat.sub_pos_of_lt more
  · exact Nat.lt_of_le_of_lt (Nat.sub_le _ _) opens.inside
  · exact .inr ((opens.range_iff byte).mp taken)
  · intro c complete
    rcases List.prefix_concat_iff.mp complete with whole | earlier
    · exact ne_of_rest (Nat.sub_pos_of_lt more) opens.rest_of_goes_on whole
    · exact opens.incomplete c earlier
  · intro c
    rw [opens.goes_on_iff]
    exact ⟨fun goes => goes.2, fun goes => ⟨form, goes⟩⟩
  · exact fun c goes => opens.rest_of_goes_on goes
  · intro other
    obtain ⟨count, missing⟩ : ∃ count, pending.missing = count + 2 :=
      ⟨pending.missing - 2, by omega⟩
    have inside := opens.inside
    simp only [missing, Nat.add_one_sub_one] at inside tops ⊢
    rw [follows_iff]
    exact ⟨fun follows => ⟨follows, tops.next inside _ (Nat.mod_lt _ (by decide))⟩, And.left⟩

end Opens

/-- What a lead says of the sequence it begins. -/
structure Leads (byte : UInt8) (lead : Lead) : Prop where
  short : lead.followers = 1 ∨ lead.followers = 2 ∨ lead.followers = 3
  form : byte.toNat = 256 - 2 ^ (7 - lead.followers) + lead.bits
  small : lead.bits < 2 ^ (6 - lead.followers)
  range : ∀ next : UInt8, (lead.least ≤ next ∧ next ≤ lead.greatest) ↔ next.toNat / 64 = 2 ∧
    Tops (lead.followers + 1) (lead.followers - 1) (lead.bits * 64 + next.toNat % 64)

section

variable {byte least greatest : UInt8} {bits : Nat}

theorem leads_two (form : byte.toNat = 0xC0 + bits) (low : 2 ≤ bits) (high : bits < 0x20) :
    Leads byte ⟨1, 0x80, 0xBF, bits⟩ := by
  refine ⟨.inl rfl, form, high, fun next => (follows_iff next).trans ?_⟩
  have tops := tops_two (bits * 64 + next.toNat % 64)
  exact ⟨fun follows => ⟨follows, tops.mpr (by omega)⟩, And.left⟩

theorem leads_three (form : byte.toNat = 0xE0 + bits) (small : bits < 0x10)
    (range : ∀ next, (least.toNat ≤ next ∧ next ≤ greatest.toNat) ↔ next / 64 = 2 ∧
      0x20 ≤ bits * 64 + next % 64 ∧ bits * 64 + next % 64 < 0x400 ∧
        ¬ (0x360 ≤ bits * 64 + next % 64 ∧ bits * 64 + next % 64 < 0x380)) :
    Leads byte ⟨2, least, greatest, bits⟩ := by
  refine ⟨.inr (.inl rfl), form, small, fun next => ?_⟩
  rw [UInt8.le_iff_toNat_le, UInt8.le_iff_toNat_le, range]
  exact and_congr Iff.rfl (tops_three _).symm

theorem leads_four (form : byte.toNat = 0xF0 + bits) (small : bits < 8)
    (range : ∀ next, (least.toNat ≤ next ∧ next ≤ greatest.toNat) ↔ next / 64 = 2 ∧
      0x10 ≤ bits * 64 + next % 64 ∧ bits * 64 + next % 64 < 0x110) :
    Leads byte ⟨3, least, greatest, bits⟩ := by
  refine ⟨.inr (.inr rfl), form, small, fun next => ?_⟩
  rw [UInt8.le_iff_toNat_le, UInt8.le_iff_toNat_le, range]
  exact and_congr Iff.rfl (tops_four _).symm

end

theorem leads_of_of? {byte : UInt8} {lead : Lead} (found : Lead.of? byte = some lead) :
    Leads byte lead := by
  have below := byte.toNat_lt
  simp only [Lead.of?, UInt8.lt_iff_toNat_lt, UInt8.reduceToNat, beq_iff_eq,
    ← UInt8.toNat_inj] at found
  repeat' split at found
  all_goals cases found
  · exact leads_two (by omega) (by omega) (by omega)
  · exact leads_three (by omega) (by omega) (by intro next; simp only [UInt8.reduceToNat]; omega)
  · exact leads_three (by omega) (by omega) (by intro next; simp only [UInt8.reduceToNat]; omega)
  · exact leads_three (by omega) (by omega) (by intro next; simp only [UInt8.reduceToNat]; omega)
  · exact leads_four (by omega) (by omega) (by intro next; simp only [UInt8.reduceToNat]; omega)
  · exact leads_four (by omega) (by omega) (by intro next; simp only [UInt8.reduceToNat]; omega)
  · exact leads_four (by omega) (by omega) (by intro next; simp only [UInt8.reduceToNat]; omega)

theorem toNat_opening (c : Char) (long : 0x80 ≤ c.toNat) :
    (opening c.utf8Size (c.toNat / 64 ^ (c.utf8Size - 1))).toNat =
      256 - 2 ^ (8 - c.utf8Size) + c.toNat / 64 ^ (c.utf8Size - 1) := by
  have sizes := utf8Size_cases c
  have range := toNat_valid c
  rw [opening, UInt8.toNat_ofNat_of_lt']
  rcases (by omega : c.utf8Size = 2 ∨ c.utf8Size = 3 ∨ c.utf8Size = 4) with size | size | size
  all_goals
    rw [size]
    simp only [UInt8.size]
    omega

/-- The characters that a lead begins, by their sizes and their first bits. -/
theorem Leads.begins_iff {byte : UInt8} {lead : Lead} (leads : Leads byte lead) (c : Char) :
    [byte] <+: String.utf8EncodeChar c ↔
      c.utf8Size = lead.followers + 1 ∧ c.toNat / 64 ^ lead.followers = lead.bits := by
  have sizes := utf8Size_cases c
  have range := toNat_valid c
  have short := leads.short
  have form := leads.form
  have small := leads.small
  by_cases long : 0x80 ≤ c.toNat
  · rw [utf8EncodeChar_eq_opening c long, List.cons_prefix_cons, ← UInt8.toNat_inj, form,
      toNat_opening c long, and_iff_left List.nil_prefix]
    rcases (by omega : c.utf8Size = 2 ∨ c.utf8Size = 3 ∨ c.utf8Size = 4) with size | size | size
    all_goals
      rw [size] at sizes ⊢
      rcases short with followers | followers | followers
      all_goals
        rw [followers] at small ⊢
        omega
  · rw [utf8EncodeChar_low c (by omega), List.cons_prefix_cons, ← UInt8.toNat_inj, form,
      UInt8.toNat_ofNat_of_lt' (by simp only [UInt8.size]; omega)]
    have large : 0x80 ≤ 256 - 2 ^ (7 - lead.followers) := by
      rcases short with followers | followers | followers <;> rw [followers] <;> decide
    omega

theorem Leads.opens {byte : UInt8} {lead : Lead} (leads : Leads byte lead) :
    Opens (lead.followers + 1) ⟨lead.followers, lead.least, lead.greatest, lead.bits⟩ [byte] := by
  have positive : 0 < lead.followers := by
    have := leads.short
    omega
  have rest : ∀ c : Char, [byte] <+: String.utf8EncodeChar c →
      String.utf8EncodeChar c = [byte] ++ followers lead.followers c.toNat := by
    intro c begins
    obtain ⟨size, -⟩ := (leads.begins_iff c).mp begins
    have sizes := utf8Size_cases c
    have whole := utf8EncodeChar_eq_opening c (by omega)
    rw [size, Nat.add_sub_cancel] at whole
    rw [whole, List.cons_prefix_cons] at begins
    rw [whole, begins.1, List.singleton_append]
  refine ⟨positive, Nat.lt_succ_self _, .inl rfl, ?_, leads.begins_iff, rest, leads.range⟩
  intro c complete
  rw [← List.nil_append [byte], List.prefix_concat_iff] at complete
  rcases complete with whole | none
  · exact ne_of_rest positive (rest c) whole
  · exact String.utf8EncodeChar_ne_nil (List.prefix_nil.mp none)

theorem bounds_of_no_lead {byte : UInt8} (none : Lead.of? byte = none) :
    byte.toNat < 0xC2 ∨ 0xF5 ≤ byte.toNat := by
  simp only [Lead.of?, UInt8.lt_iff_toNat_lt, UInt8.reduceToNat, beq_iff_eq,
    ← UInt8.toNat_inj] at none
  repeat' split at none
  all_goals cases none
  · omega
  · omega

/-- A byte that is neither a character nor a lead begins no sequence. -/
theorem not_begins_of_no_lead {byte : UInt8} (high : 0x80 ≤ byte.toNat)
    (none : Lead.of? byte = none) : ¬ Begins [byte] := by
  rintro ⟨c, begins⟩
  have outside := bounds_of_no_lead none
  have sizes := utf8Size_cases c
  have range := toNat_valid c
  by_cases long : 0x80 ≤ c.toNat
  · rw [utf8EncodeChar_eq_opening c long, List.cons_prefix_cons, ← UInt8.toNat_inj,
      toNat_opening c long] at begins
    have first := begins.1
    rcases (by omega : c.utf8Size = 2 ∨ c.utf8Size = 3 ∨ c.utf8Size = 4) with size | size | size
    all_goals
      rw [size] at sizes first
      omega
  · rw [utf8EncodeChar_low c (by omega), List.cons_prefix_cons, ← UInt8.toNat_inj,
      UInt8.toNat_ofNat_of_lt' (by simp only [UInt8.size]; omega)] at begins
    omega

end SourceIndex.Text
