import SourceIndex.Json.Reader
import SourceIndex.Proofs.Json.Rendering
import SourceIndex.Proofs.Json.Scanning

/-
What is in the items of a list and the members of an object is left to the reader, so that readers
of values and readers of records share the two.
-/

set_option autoImplicit false

namespace SourceIndex

theorem decimalDigits_eq_cons (n : Nat) :
    ∃ c digits, decimalDigits n = c :: digits ∧ c.isDigit := by
  cases first : decimalDigits n with
  | nil =>
      rw [Json.decimalDigits_eq] at first
      exact absurd first Nat.toDigits_ne_nil
  | cons c digits =>
      exact ⟨c, digits, rfl, isDigit_of_mem_decimalDigits n c (first ▸ List.mem_cons_self)⟩

/-- A decimal begins with a digit, in every form it may be given. -/
theorem Decimal.render_eq_cons (style : DecimalStyle) (decimal : Decimal) :
    ∃ c later, decimal.render style = c :: later ∧ c.isDigit := by
  obtain ⟨c, digits, first, digit⟩ := decimalDigits_eq_cons decimal.digits
  simp only [render, first]
  split
  · exact ⟨c, _, rfl, digit⟩
  split
  · rename_i inside
    obtain ⟨count, point⟩ : ∃ count : Nat,
        (((c :: digits).length : Int) + decimal.exponent).toNat = count + 1 :=
      ⟨_, (Nat.succ_pred_eq_of_pos (by omega)).symm⟩
    rw [point, List.take_succ_cons]
    exact ⟨c, _, rfl, digit⟩
  split
  · exact ⟨'0', _, rfl, rfl⟩
  · rw [List.take_succ_cons]
    exact ⟨c, _, rfl, digit⟩

namespace Json

theorem skipSpaces_cons (c : Char) (rest : List Char) (solid : isSpace c = false) :
    skipSpaces (c :: rest) = c :: rest := by
  simp only [skipSpaces, List.dropWhile_cons, solid, Bool.false_eq_true, ↓reduceIte]

theorem skipSpaces_skipSpaces (text : List Char) :
    skipSpaces (skipSpaces text) = skipSpaces text := by
  induction text with
  | nil => rfl
  | cons c text ih =>
      cases solid : isSpace c
      · rw [skipSpaces_cons c text solid, skipSpaces_cons c text solid]
      · have next : skipSpaces (c :: text) = skipSpaces text := List.dropWhile_cons_of_pos solid
        rw [next, ih]

theorem isDigit_of_isDigit (c : Char) (digit : c.isDigit) : isDigit c = true := by
  rw [isDigit, digit?_eq_some c digit]
  rfl

theorem ne_of_isDigit (c other : Char) (digit : c.isDigit) (letter : other.isDigit = false) :
    (c == other) = false := by
  rw [beq_eq_false_iff_ne]
  rintro rfl
  exact absurd digit (by rw [letter]; exact Bool.false_ne_true)

theorem isSpace_of_isDigit (c : Char) (digit : c.isDigit) : isSpace c = false := by
  simp only [isSpace, ne_of_isDigit c ' ' digit rfl, ne_of_isDigit c '\n' digit rfl,
    ne_of_isDigit c '\t' digit rfl, ne_of_isDigit c '\r' digit rfl, Bool.or_self]

/-- Whether a value is written as null: null itself, and a number that is not finite. -/
def writesNull : Json → Bool
  | null => true
  | double value => value.isInfinite
  | single value => value.isInfinite
  | _ => false

/-- The first character of a value is no blank and closes no list, and tells whether the value is
written as null. -/
structure Opens (c : Char) (null : Bool) : Prop where
  solid : isSpace c = false
  inside : (c == ']') = false
  word : (c == 'n') = null

theorem opens_of_isDigit {c : Char} (digit : c.isDigit) : Opens c false :=
  ⟨isSpace_of_isDigit c digit, ne_of_isDigit c ']' digit rfl, ne_of_isDigit c 'n' digit rfl⟩

theorem renderFloating_eq_cons (format : FloatFormat) (style : DecimalStyle) (value : Floating) :
    ∃ c later, renderFloating format style value = c :: later ∧ Opens c value.isInfinite := by
  cases value with
  | infinite negative => exact ⟨'n', _, rfl, rfl, rfl, rfl⟩
  | finite negative mantissa exponent =>
      simp only [renderFloating, Floating.render?]
      cases negative
      · split
        · exact ⟨'0', _, rfl, rfl, rfl, rfl⟩
        · obtain ⟨c, later, text, digit⟩ := (format.shortest mantissa exponent).render_eq_cons style
          exact ⟨c, later, text, opens_of_isDigit digit⟩
      · split
        · exact ⟨'-', _, rfl, rfl, rfl, rfl⟩
        · exact ⟨'-', _, rfl, rfl, rfl, rfl⟩

theorem render_eq_cons (layout : Layout) (value : Json) :
    ∃ c later, value.render layout = c :: later ∧ Opens c value.writesNull := by
  cases value with
  | null => exact ⟨'n', _, rfl, rfl, rfl, rfl⟩
  | bool value =>
      cases value
      · exact ⟨'f', _, rfl, rfl, rfl, rfl⟩
      · exact ⟨'t', _, rfl, rfl, rfl, rfl⟩
  | integer value =>
      obtain ⟨c, digits, first, digit⟩ := decimalDigits_eq_cons value.natAbs
      simp only [render, renderInteger]
      split
      · exact ⟨'-', _, rfl, rfl, rfl, rfl⟩
      · exact ⟨c, digits, first, opens_of_isDigit digit⟩
  | double value => exact renderFloating_eq_cons .double .double value
  | single value => exact renderFloating_eq_cons .single .single value
  | string value => exact ⟨'"', _, rfl, rfl, rfl, rfl⟩
  | array items => cases items <;> exact ⟨'[', _, rfl, rfl, rfl, rfl⟩
  | object members => cases members <;> exact ⟨'\x7b', _, rfl, rfl, rfl, rfl⟩

theorem skipSpaces_newLine (layout : Layout) (text : List Char) :
    skipSpaces (layout.newLine ++ text) = skipSpaces text := by
  cases layout with
  | none => rfl
  | some depth =>
      have blanks : ∀ c ∈ '\n' :: List.replicate (2 * depth) ' ', isSpace c = true := by
        intro c member
        rcases List.mem_cons.mp member with rfl | blank
        · rfl
        · rw [List.eq_of_mem_replicate blank]
          rfl
      exact List.dropWhile_append_of_pos blanks

/-- The blanks that a layout puts after a colon. -/
def Layout.gap : Layout → List Char
  | none => []
  | some _ => [' ']

theorem scanColon_colon (layout : Layout) (text : List Char) :
    scanColon (layout.colon ++ text) = .ok (layout.gap ++ text) := by
  cases layout <;> rfl

theorem skipSpaces_gap (layout : Layout) (text : List Char) :
    skipSpaces (layout.gap ++ text) = skipSpaces text := by
  cases layout <;> rfl

theorem endsNumber_newLine (layout : Layout) (c : Char) (rest : List Char)
    (ends : endsNumber (c :: rest)) : endsNumber (layout.newLine ++ c :: rest) := by
  cases layout with
  | none => exact ends
  | some depth => rfl

/-- A reader that reads a value back from its text, whatever follows and whatever blanks stand
before. -/
structure ReadsBack (layout : Layout) (bound : Nat) (read : Scan Json) (written value : Json) :
    Prop where
  passes (text : List Char) : read (skipSpaces text) = read text
  back (rest : List Char) (room : (written.render layout ++ rest).length < bound)
    (ends : endsNumber rest) : read (written.render layout ++ rest) = .ok (value, rest)

theorem length_render_pos (layout : Layout) (value : Json) : 0 < (value.render layout).length := by
  obtain ⟨c, later, text, -⟩ := value.render_eq_cons layout
  rw [text, List.length_cons]
  exact Nat.succ_pos _

theorem nextItem_close (layout : Layout) (first : Bool) (rest : List Char) :
    nextItem first (layout.newLine ++ ']' :: rest) = .ok (false, ']' :: rest) := by
  simp only [nextItem, skipSpaces_newLine, skipSpaces_cons ']' _ rfl, beq_self_eq_true, ↓reduceIte]

theorem nextItem_first (layout : Layout) (value : Json) (rest : List Char) :
    nextItem true (layout.newLine ++ (value.render layout ++ rest)) =
      .ok (true, value.render layout ++ rest) := by
  obtain ⟨c, later, text, opens⟩ := value.render_eq_cons layout
  simp only [nextItem, skipSpaces_newLine, text, List.cons_append, skipSpaces_cons c _ opens.solid,
    opens.inside, Bool.false_eq_true, ↓reduceIte]

theorem nextItem_comma (layout : Layout) (value : Json) (rest : List Char) :
    nextItem false (',' :: (layout.newLine ++ (value.render layout ++ rest))) =
      .ok (true, value.render layout ++ rest) := by
  obtain ⟨c, later, text, opens⟩ := value.render_eq_cons layout
  simp only [nextItem, skipSpaces_cons ',' _ rfl, skipSpaces_newLine, text, List.cons_append,
    skipSpaces_cons c _ opens.solid, opens.inside, show (',' == ']') = false from rfl,
    beq_self_eq_true, Bool.false_eq_true, ↓reduceIte]

theorem endsNumber_renderItems (layout : Layout) (items : List Json) (rest : List Char) :
    endsNumber (renderItems layout items ++ rest) := by
  cases items with
  | nil =>
      rw [renderItems, List.append_assoc]
      exact endsNumber_newLine layout ']' rest rfl
  | cons item items => rfl

theorem readItems_step {layout : Layout} {bound : Nat} {read : Scan Json} {written value : Json}
    (reads : ReadsBack layout bound read written value) (fuel : Nat) (found : List Json)
    (text rest : List Char)
    (next : nextItem found.isEmpty text = .ok (true, written.render layout ++ rest))
    (room : (written.render layout ++ rest).length < bound) (ends : endsNumber rest) :
    readItems read (fuel + 1) found text = readItems read fuel (value :: found) rest := by
  simp only [readItems, next, bind, Except.bind, ↓reduceIte, reads.back rest room ends]

theorem readItems_later (layout : Layout) (bound : Nat) (read : Scan Json)
    (items : List (Json × Json))
    (each : ∀ item ∈ items, ReadsBack layout.inner bound read item.1 item.2) (fuel : Nat)
    (found : List Json) (some : found.isEmpty = false) (rest : List Char)
    (room : (renderItems layout (items.map (·.1)) ++ rest).length < bound)
    (steps : (renderItems layout (items.map (·.1)) ++ rest).length < fuel) :
    readItems read fuel found (renderItems layout (items.map (·.1)) ++ rest) =
      .ok (found.reverse ++ items.map (·.2), ']' :: rest) := by
  induction items generalizing fuel found with
  | nil =>
      obtain ⟨fuel, rfl⟩ := Nat.exists_eq_succ_of_ne_zero (Nat.ne_zero_of_lt steps)
      simp only [List.map_nil, renderItems, List.append_assoc, List.singleton_append, readItems,
        some, nextItem_close, bind, Except.bind, Bool.false_eq_true, ↓reduceIte, List.append_nil]
      rfl
  | cons item items ih =>
      obtain ⟨fuel, rfl⟩ := Nat.exists_eq_succ_of_ne_zero (Nat.ne_zero_of_lt steps)
      have head := each item List.mem_cons_self
      have tail := fun other member => each other (List.mem_cons_of_mem item member)
      simp only [List.map_cons, renderItems, List.cons_append, List.append_assoc, List.length_cons,
        List.length_append] at room steps ⊢
      rw [readItems_step head fuel found _ _ (by rw [some, nextItem_comma])
          (by simp only [List.length_append]; omega) (endsNumber_renderItems layout _ rest),
        ih tail fuel (item.2 :: found) rfl (by simp only [List.length_append]; omega)
          (by simp only [List.length_append]; omega),
        List.reverse_cons, List.append_assoc, List.singleton_append]

theorem readItems_render (layout : Layout) (bound : Nat) (read : Scan Json)
    (items : List (Json × Json))
    (each : ∀ item ∈ items, ReadsBack layout.inner bound read item.1 item.2) (rest : List Char)
    (room : ((Json.array (items.map (·.1))).render layout ++ rest).length < bound) :
    ∃ text, (Json.array (items.map (·.1))).render layout ++ rest = '[' :: text ∧
      readItems read bound [] text = .ok (items.map (·.2), ']' :: rest) := by
  cases items with
  | nil =>
      obtain ⟨bound, rfl⟩ := Nat.exists_eq_succ_of_ne_zero (Nat.ne_zero_of_lt room)
      exact ⟨_, rfl, rfl⟩
  | cons item items =>
      obtain ⟨fuel, rfl⟩ := Nat.exists_eq_succ_of_ne_zero (Nat.ne_zero_of_lt room)
      have head := each item List.mem_cons_self
      have tail := fun other member => each other (List.mem_cons_of_mem item member)
      have some := length_render_pos layout.inner item.1
      simp only [List.map_cons, render, List.cons_append, List.append_assoc, List.length_cons,
        List.length_append] at room ⊢
      refine ⟨_, rfl, ?_⟩
      rw [readItems_step head fuel [] _ _ (nextItem_first layout.inner item.1 _)
          (by simp only [List.length_append]; omega) (endsNumber_renderItems layout _ rest),
        readItems_later layout (fuel + 1) read items tail fuel [item.2] rfl rest
          (by simp only [List.length_append]; omega) (by simp only [List.length_append]; omega),
        List.reverse_singleton, List.singleton_append]

theorem nextMember_close (layout : Layout) (first : Bool) (rest : List Char) :
    nextMember first (layout.newLine ++ '\x7d' :: rest) = .ok (false, '\x7d' :: rest) := by
  simp only [nextMember, skipSpaces_newLine, skipSpaces_cons '\x7d' _ rfl, beq_self_eq_true,
    ↓reduceIte]

theorem nextMember_first (layout : Layout) (name rest : List Char) :
    nextMember true (layout.newLine ++ (quoted name ++ rest)) =
      .ok (true, quoted name ++ rest) := by
  rw [quoted_append]
  simp only [nextMember, skipSpaces_newLine]
  rfl

theorem nextMember_comma (layout : Layout) (name rest : List Char) :
    nextMember false (',' :: (layout.newLine ++ (quoted name ++ rest))) =
      .ok (true, quoted name ++ rest) := by
  rw [quoted_append]
  simp only [nextMember, skipSpaces_cons ',' _ rfl, skipSpaces_newLine]
  rfl

theorem endsNumber_renderMembers (layout : Layout) (members : List (String × Json))
    (rest : List Char) : endsNumber (renderMembers layout members ++ rest) := by
  cases members with
  | nil =>
      rw [renderMembers, List.append_assoc]
      exact endsNumber_newLine layout '\x7d' rest rfl
  | cons member members => rfl

/-- What a reader of members makes of members one after the other, from one state to another. -/
inductive TakesIn {σ : Type} (layout : Layout) (bound : Nat) (read : σ → String → Scan σ) :
    σ → List (String × Json) → σ → Prop
  | none (state : σ) : TakesIn layout bound read state [] state
  | member (before between after : σ) (name : String) (value : Json)
      (members : List (String × Json))
      (here : ∀ rest, (value.render layout.inner ++ rest).length < bound → endsNumber rest →
        read before name (layout.colon ++ (value.render layout.inner ++ rest)) =
          .ok (between, rest))
      (later : TakesIn layout bound read between members after) :
      TakesIn layout bound read before ((name, value) :: members) after

section

variable {σ : Type} (layout : Layout) (bound : Nat) (read : σ → String → Scan σ)

theorem readMembers_step (before between : σ) (name : String) (value : Json)
    (here : ∀ rest, (value.render layout.inner ++ rest).length < bound → endsNumber rest →
      read before name (layout.colon ++ (value.render layout.inner ++ rest)) = .ok (between, rest))
    (fuel : Nat) (first : Bool) (text rest : List Char)
    (next : nextMember first text = .ok (true,
      quoted name.toList ++ (layout.colon ++ (value.render layout.inner ++ rest))))
    (room : (quoted name.toList ++
      (layout.colon ++ (value.render layout.inner ++ rest))).length < bound)
    (ends : endsNumber rest) :
    readMembers bound read (fuel + 1) first before text =
      readMembers bound read fuel false between rest := by
  have whole := scanString_quoted name bound _ room
  have taken := here rest (by simp only [List.length_append] at room ⊢; omega) ends
  rw [quoted_append] at next
  simp only [readMembers, next, bind, Except.bind, ↓reduceIte, List.drop_succ_cons,
    List.drop_zero, whole, taken]

theorem readMembers_later {before after : σ} {members : List (String × Json)}
    (takes : TakesIn layout bound read before members after) (fuel : Nat) (rest : List Char)
    (room : (renderMembers layout members ++ rest).length < bound)
    (steps : (renderMembers layout members ++ rest).length < fuel) :
    readMembers bound read fuel false before (renderMembers layout members ++ rest) =
      .ok (after, '\x7d' :: rest) := by
  induction takes generalizing fuel with
  | none state =>
      obtain ⟨fuel, rfl⟩ := Nat.exists_eq_succ_of_ne_zero (Nat.ne_zero_of_lt steps)
      simp only [renderMembers, List.append_assoc, List.singleton_append, readMembers,
        nextMember_close, bind, Except.bind, Bool.false_eq_true, ↓reduceIte]
      rfl
  | member before between after name value members here later ih =>
      obtain ⟨fuel, rfl⟩ := Nat.exists_eq_succ_of_ne_zero (Nat.ne_zero_of_lt steps)
      simp only [renderMembers, List.cons_append, List.append_assoc, List.length_cons,
        List.length_append] at room steps ⊢
      rw [readMembers_step layout bound read before between name value here fuel false _ _
          (nextMember_comma _ _ _) (by simp only [List.length_append]; omega)
          (endsNumber_renderMembers layout _ rest),
        ih fuel (by simp only [List.length_append]; omega)
          (by simp only [List.length_append]; omega)]

theorem readMembers_render {before after : σ} {members : List (String × Json)}
    (takes : TakesIn layout bound read before members after) (rest : List Char)
    (room : ((Json.object members).render layout ++ rest).length < bound) :
    ∃ text, (Json.object members).render layout ++ rest = '\x7b' :: text ∧
      readMembers bound read bound true before text = .ok (after, '\x7d' :: rest) := by
  obtain ⟨fuel, rfl⟩ := Nat.exists_eq_succ_of_ne_zero (Nat.ne_zero_of_lt room)
  cases takes with
  | none state => exact ⟨_, rfl, rfl⟩
  | member before between after name value members here later =>
      simp only [render, List.cons_append, List.append_assoc, List.length_cons,
        List.length_append] at room ⊢
      refine ⟨_, rfl, ?_⟩
      rw [readMembers_step layout (fuel + 1) read before between name value here fuel true _ _
          (nextMember_first _ _ _) (by simp only [List.length_append]; omega)
          (endsNumber_renderMembers layout _ rest),
        readMembers_later layout (fuel + 1) read later fuel rest
          (by simp only [List.length_append]; omega) (by simp only [List.length_append]; omega)]

end

theorem readWith_skipSpaces (bound : Nat) (inner : Option (Scan Json)) (text : List Char) :
    readWith bound inner (skipSpaces text) = readWith bound inner text := by
  simp only [readWith, skipSpaces_skipSpaces]

theorem readWith_quoted (bound : Nat) (inner : Option (Scan Json)) (text : String)
    (rest : List Char) (room : (quoted text.toList ++ rest).length < bound) :
    readWith bound inner (quoted text.toList ++ rest) = .ok (.string text, rest) := by
  have inside := scanString_quoted text bound rest room
  rw [quoted_append]
  simp only [readWith, skipSpaces_cons '"' _ rfl, show ('"' == 'n') = false from rfl,
    show ('"' == 't') = false from rfl, show ('"' == 'f') = false from rfl,
    show ('"' == '-') = false from rfl, show isDigit '"' = false from rfl, beq_self_eq_true,
    Bool.false_eq_true, ↓reduceIte, inside]
  rfl

theorem readWith_digit (bound : Nat) (inner : Option (Scan Json)) (c : Char) (digit : c.isDigit)
    (rest : List Char) : readWith bound inner (c :: rest) = scanNumber true (c :: rest) := by
  simp only [readWith, skipSpaces_cons c _ (isSpace_of_isDigit c digit),
    ne_of_isDigit c 'n' digit rfl, ne_of_isDigit c 't' digit rfl, ne_of_isDigit c 'f' digit rfl,
    ne_of_isDigit c '-' digit rfl, isDigit_of_isDigit c digit, Bool.false_eq_true, ↓reduceIte]

theorem render_natural (layout : Layout) (n : Nat) :
    (natural n).render layout = decimalDigits n := by
  have positive : ¬ (n : Int) < 0 := by omega
  simp only [natural, render, renderInteger, positive, ↓reduceIte, Int.natAbs_natCast]

theorem readWith_natural (bound : Nat) (inner : Option (Scan Json)) (n : Nat)
    (fits : n < significandBound) (rest : List Char) (ends : endsNumber rest) :
    readWith bound inner (decimalDigits n ++ rest) = .ok (.natural n, rest) := by
  have number := scanNumber_decimalDigits n fits rest ends
  obtain ⟨c, digits, first, digit⟩ := decimalDigits_eq_cons n
  rw [first, List.cons_append] at number ⊢
  rw [readWith_digit bound inner c digit, number, natural]

end Json

end SourceIndex
