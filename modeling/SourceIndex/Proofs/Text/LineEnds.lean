import SourceIndex.Proofs.Text.Bytes
import SourceIndex.Text.LineEnds

set_option autoImplicit false

namespace SourceIndex.LineEnds

open Text (utf8 utf8_cons utf8_append)

/-- Whether a line ends with a byte, told by the one after it: with a line feed, or with a carriage
return that no line feed follows. -/
def endsLine (byte : UInt8) (next : Option UInt8) : Bool :=
  byte == 10 || (byte == 13 && next != some 10)

/-- The number of line ends that are complete within the first bytes. -/
def endsWithin : List UInt8 → Nat → Nat
  | [], _ => 0
  | _, 0 => 0
  | byte :: rest, count + 1 => (endsLine byte rest.head?).toNat + endsWithin rest count

/-- The number of bytes of the first line, its end included. -/
def firstLineLength : List UInt8 → Nat
  | [] => 0
  | byte :: rest => if endsLine byte rest.head? then 1 else firstLineLength rest + 1

/-- What stands for a byte, told by the one after it. -/
def unifiedByte (byte : UInt8) (next : Option UInt8) : UInt8 :=
  if byte = 13 then if next = some 10 then 32 else 10 else byte

def unifyBytes : List UInt8 → List UInt8
  | [] => []
  | byte :: rest => unifiedByte byte rest.head? :: unifyBytes rest

theorem unifiedByte_eq_lineFeed (byte : UInt8) (next : Option UInt8) :
    unifiedByte byte next = 10 ↔ endsLine byte next = true := by
  simp only [unifiedByte, endsLine, Bool.or_eq_true, Bool.and_eq_true, beq_iff_eq, bne_iff_ne]
  split
  · rename_i carriage
    subst carriage
    split <;> simp_all
  · rename_i other
    simp [other]

theorem unifiedByte_of_ne (byte : UInt8) (next : Option UInt8) (other : byte ≠ 13) :
    unifiedByte byte next = byte := if_neg other

theorem unifyBytes_append (first second : List UInt8) (plain : ∀ byte ∈ first, byte ≠ 13) :
    unifyBytes (first ++ second) = first ++ unifyBytes second := by
  induction first with
  | nil => rfl
  | cons byte rest ih =>
      rw [List.cons_append, unifyBytes, unifiedByte_of_ne byte _ (plain byte (by simp)),
        ih (fun other member => plain other (List.mem_cons_of_mem _ member)), List.cons_append]

theorem getElem?_unifyBytes (bytes : List UInt8) (index : Nat) :
    (unifyBytes bytes)[index]? =
      (bytes[index]?).map fun byte => unifiedByte byte bytes[index + 1]? := by
  induction bytes generalizing index with
  | nil => rfl
  | cons byte rest ih =>
      cases index with
      | zero => simp [unifyBytes, List.head?_eq_getElem?]
      | succ index => simp [unifyBytes, ih]

/-- Unifying keeps the lines: a line feed stands where a line ended, and nowhere else. -/
theorem count_take_unifyBytes (bytes : List UInt8) (count : Nat) :
    ((unifyBytes bytes).take count).count 10 = endsWithin bytes count := by
  induction bytes generalizing count with
  | nil => simp [unifyBytes, endsWithin]
  | cons byte rest ih =>
      cases count with
      | zero => simp [endsWithin]
      | succ count =>
          rw [unifyBytes, List.take_succ_cons, List.count_cons, ih, endsWithin, Nat.add_comm]
          congr 1
          by_cases ends : endsLine byte rest.head? = true
          · simp [ends, (unifiedByte_eq_lineFeed byte rest.head?).mpr ends]
          · have kept : unifiedByte byte rest.head? ≠ 10 := by
              rwa [Ne, unifiedByte_eq_lineFeed]
            simp [ends, kept]

@[simp] theorem endsWithin_zero (bytes : List UInt8) : endsWithin bytes 0 = 0 := by
  cases bytes <;> rfl

theorem endsWithin_append (first second : List UInt8) (count : Nat) :
    endsWithin (first ++ second) (first.length + count) =
      endsWithin (first ++ second) first.length + endsWithin second count := by
  induction first with
  | nil => simp
  | cons byte rest ih =>
      rw [List.length_cons, Nat.add_right_comm, List.cons_append, endsWithin, ih, endsWithin,
        Nat.add_assoc]

/-- No line ends with a byte that is neither a line feed nor a carriage return. -/
theorem endsWithin_of_plain (first second : List UInt8)
    (feedless : ∀ byte ∈ first, byte ≠ 10) (carriageless : ∀ byte ∈ first, byte ≠ 13) :
    endsWithin (first ++ second) first.length = 0 := by
  induction first with
  | nil => simp
  | cons byte rest ih =>
      have ends : endsLine byte (rest ++ second).head? = false := by
        simp [endsLine, feedless byte (by simp), carriageless byte (by simp)]
      rw [List.cons_append, List.length_cons, endsWithin, ends,
        ih (fun other member => feedless other (by simp [member]))
          (fun other member => carriageless other (by simp [member]))]
      rfl

theorem endsWithin_mono (bytes : List UInt8) {fewer more : Nat} (le : fewer ≤ more) :
    endsWithin bytes fewer ≤ endsWithin bytes more := by
  induction bytes generalizing fewer more with
  | nil => simp [endsWithin]
  | cons byte rest ih =>
      cases fewer with
      | zero => simp [endsWithin]
      | succ fewer =>
          cases more with
          | zero => omega
          | succ more => exact Nat.add_le_add_left (ih (by omega)) _

/-- The first line is as long as every part of the text in which no line ends. -/
theorem le_firstLineLength (bytes : List UInt8) (count : Nat) (inside : count ≤ bytes.length)
    (none : endsWithin bytes count = 0) : count ≤ firstLineLength bytes := by
  induction bytes generalizing count with
  | nil => exact Nat.le_trans inside (Nat.zero_le _)
  | cons byte rest ih =>
      cases count with
      | zero => exact Nat.zero_le _
      | succ count =>
          rw [endsWithin, Nat.add_eq_zero_iff] at none
          have open' : endsLine byte rest.head? = false := by
            cases ends : endsLine byte rest.head? with
            | false => rfl
            | true => rw [ends] at none; exact absurd none.1 (by decide)
          have bound := ih count (by simpa using inside) none.2
          rw [firstLineLength, open']
          simp only [Bool.false_eq_true, ↓reduceIte]
          omega

/-- The fold behind `unify`: the first character, and the unified text. -/
theorem unify_eq (text : List Char) :
    unify text = (text.foldr (fun c later => (some c, unified c later.1 :: later.2))
      ((none, []) : Option Char × List Char)).2 := rfl

theorem unify_cons (c : Char) (text : List Char) :
    unify (c :: text) = unified c text.head? :: unify text := by
  have ahead : (text.foldr (fun c later => (some c, unified c later.1 :: later.2))
      ((none, []) : Option Char × List Char)).1 = text.head? := by
    cases text <;> rfl
  rw [unify_eq, unify_eq, List.foldr_cons, ahead]

theorem ne_of_mem_utf8EncodeChar (c : Char) (byte : UInt8) (low : byte < 0x80)
    (other : c.toNat ≠ byte.toNat) : ∀ inner ∈ String.utf8EncodeChar c, inner ≠ byte := by
  rintro inner member rfl
  exact other ((Text.mem_utf8EncodeChar_low c inner low).mp member)

theorem head?_utf8 (text : List Char) :
    (utf8 text).head? = some 10 ↔ text.head? = some '\n' := by
  cases text with
  | nil => simp
  | cons c text =>
      rw [utf8_cons]
      by_cases feed : c = '\n'
      · subst feed
        simp [String.utf8EncodeChar]
      · have apart : c.toNat ≠ (10 : UInt8).toNat := fun same => feed (Char.toNat_inj.mp same)
        have bytes := ne_of_mem_utf8EncodeChar c 10 (by decide) apart
        cases encoded : String.utf8EncodeChar c with
        | nil => exact absurd encoded String.utf8EncodeChar_ne_nil
        | cons byte more =>
            have head := bytes byte (by simp [encoded])
            simp [feed, head]

theorem utf8_unify (text : List Char) : utf8 (unify text) = unifyBytes (utf8 text) := by
  induction text with
  | nil => rfl
  | cons c text ih =>
      rw [unify_cons, utf8_cons, utf8_cons, ih]
      by_cases carriage : c = '\r'
      · subst carriage
        by_cases feed : text.head? = some '\n'
        · simp [unified, feed, String.utf8EncodeChar, unifyBytes, unifiedByte,
            (head?_utf8 text).mpr feed]
        · have kept : (utf8 text).head? ≠ some 10 := fun same => feed ((head?_utf8 text).mp same)
          simp [unified, feed, String.utf8EncodeChar, unifyBytes, unifiedByte, kept]
      · have apart : c.toNat ≠ (13 : UInt8).toNat :=
          fun same => carriage (Char.toNat_inj.mp same)
        rw [unifyBytes_append _ _ (ne_of_mem_utf8EncodeChar c 13 (by decide) apart)]
        simp [unified, carriage]

end SourceIndex.LineEnds
