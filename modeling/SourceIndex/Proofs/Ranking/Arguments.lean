import SourceIndex.Proofs.Text.Digits
import SourceIndex.Proofs.Text.Joints
import SourceIndex.Proofs.Text.Replacing
import SourceIndex.Ranking

/-
The arguments of a ranker are its templates with two values put in, one after the other, and that is
the same as reading each template once. It is so because the first value is a number: neither it nor
what stands around it can make a new placeholder of the second kind, and the second value is not
searched.
-/

set_option autoImplicit false

namespace SourceIndex.Ranking

/-- What may stand in a template for a value. -/
inductive Placeholder where
  | count
  | query
deriving DecidableEq

namespace Placeholder

def spelling : Placeholder → String
  | .count => "\x7btop_k\x7d"
  | .query => "\x7bquery\x7d"

/-- The value that is put in, which for the number of chunks is its decimal digits. -/
def value (query : String) (count : Nat) : Placeholder → String
  | .count => toString count
  | .query => query

/-- The placeholder with which the text begins. -/
def first? (text : List Char) : Option Placeholder :=
  if Placeholder.count.spelling.toList.isPrefixOf text then some .count
  else if Placeholder.query.spelling.toList.isPrefixOf text then some .query
  else none

theorem length_spelling (mark : Placeholder) : mark.spelling.toList.length = 7 := by
  cases mark <;> decide

/-- The template read once from left to right, with a value for each placeholder. -/
def fill (valueOf : Placeholder → List Char) (text : List Char) : List Char :=
  match text with
  | [] => []
  | c :: rest =>
    match first? (c :: rest) with
    | some mark => valueOf mark ++ fill valueOf ((c :: rest).drop mark.spelling.toList.length)
    | none => c :: fill valueOf rest
termination_by text.length
decreasing_by
  · rw [length_spelling, List.length_drop, List.length_cons]
    omega
  · exact Nat.lt_succ_self _

/-- The character that opens a placeholder, and nothing else in one. -/
def opening : Char := '\x7b'

theorem spelling_eq (mark : Placeholder) :
    mark.spelling.toList = opening :: mark.spelling.toList.tail := by
  cases mark <;> decide

theorem opening_not_mem_tail (mark : Placeholder) : opening ∉ mark.spelling.toList.tail := by
  cases mark <;> decide

theorem not_count_prefix_query (after : List Char) :
    ¬ count.spelling.toList <+: query.spelling.toList ++ after := by
  intro begins
  have same := List.prefix_of_prefix_length_le begins (List.prefix_append _ _) (by decide)
  exact absurd same (by decide)

theorem first?_spelling (mark : Placeholder) (after : List Char) :
    first? (mark.spelling.toList ++ after) = some mark := by
  have begins : mark.spelling.toList.isPrefixOf (mark.spelling.toList ++ after) = true :=
    List.isPrefixOf_iff_prefix.mpr (List.prefix_append _ _)
  cases mark with
  | count => rw [first?, if_pos begins]
  | query =>
      have other := mt List.isPrefixOf_iff_prefix.mp (not_count_prefix_query after)
      rw [first?, if_neg other, if_pos begins]

theorem prefix_of_first? {text : List Char} {mark : Placeholder}
    (found : first? text = some mark) : mark.spelling.toList <+: text := by
  rw [first?] at found
  split at found
  · rename_i begins
    cases found
    exact List.isPrefixOf_iff_prefix.mp begins
  · split at found
    · rename_i begins
      cases found
      exact List.isPrefixOf_iff_prefix.mp begins
    · cases found

theorem first?_eq_none_iff (text : List Char) :
    first? text = none ↔ ∀ mark : Placeholder, ¬ mark.spelling.toList <+: text := by
  constructor
  · rintro none mark ⟨after, rfl⟩
    rw [first?_spelling] at none
    cases none
  · intro absent
    cases found : first? text with
    | none => rfl
    | some mark => exact absurd (prefix_of_first? found) (absent mark)

/-- A template is empty, or it begins with a placeholder or with a character that begins none. -/
theorem templateInduction {motive : List Char → Prop} (nil : motive [])
    (mark : ∀ (mark : Placeholder) (after : List Char), motive after →
      motive (mark.spelling.toList ++ after))
    (letter : ∀ (c : Char) (rest : List Char), first? (c :: rest) = none → motive rest →
      motive (c :: rest))
    (text : List Char) : motive text := by
  induction size : text.length using Nat.strongRecOn generalizing text with
  | ind length ih =>
      subst size
      cases text with
      | nil => exact nil
      | cons c rest =>
          cases found : first? (c :: rest) with
          | none => exact letter c rest found (ih _ (Nat.lt_succ_self _) rest rfl)
          | some placeholder =>
              obtain ⟨after, whole⟩ := prefix_of_first? found
              rw [← whole]
              refine mark placeholder after (ih _ ?_ after rfl)
              rw [← whole, List.length_append, length_spelling]
              omega

variable (valueOf : Placeholder → List Char)

theorem fill_nil : fill valueOf [] = [] := by rw [fill]

theorem fill_spelling (mark : Placeholder) (after : List Char) :
    fill valueOf (mark.spelling.toList ++ after) = valueOf mark ++ fill valueOf after := by
  have found := first?_spelling mark after
  have passed : (mark.spelling.toList ++ after).drop mark.spelling.toList.length = after :=
    List.drop_left
  obtain ⟨c, rest, text⟩ : ∃ c rest, mark.spelling.toList ++ after = c :: rest :=
    ⟨opening, mark.spelling.toList.tail ++ after, by rw [← List.cons_append, ← spelling_eq]⟩
  rw [text] at found passed ⊢
  rw [fill]
  simp only [found]
  rw [passed]

theorem fill_letter (c : Char) (rest : List Char) (none : first? (c :: rest) = none) :
    fill valueOf (c :: rest) = c :: fill valueOf rest := by
  rw [fill]
  simp only [none]

/-- A placeholder that is not in a text does not arise when another one follows. -/
theorem prefix_of_prefix_append {mark : Placeholder} {c : Char} {text more : List Char}
    (begins : mark.spelling.toList <+: c :: text ++ opening :: more) :
    mark.spelling.toList <+: c :: text := by
  rcases List.prefix_or_prefix_of_prefix begins (List.prefix_append _ _) with inside | beyond
  · exact inside
  · obtain ⟨last, whole⟩ := beyond
    cases last with
    | nil => exact ⟨[], by rw [List.append_nil, ← whole, List.append_nil]⟩
    | cons first last =>
        obtain ⟨after, parts⟩ := begins
        rw [← whole, List.append_assoc, List.append_cancel_left_eq, List.cons_append] at parts
        obtain ⟨rfl, -⟩ := List.cons.inj parts
        have tail : mark.spelling.toList.tail = text ++ opening :: last := by
          rw [← whole]
          rfl
        exact absurd (tail ▸ List.mem_append_right text List.mem_cons_self)
          (opening_not_mem_tail mark)

/-- Each occurrence of a placeholder is replaced by its value, whatever stands around it. -/
theorem fill_around (before : List Char) (mark : Placeholder) (after : List Char) :
    fill valueOf (before ++ mark.spelling.toList ++ after) =
      fill valueOf before ++ valueOf mark ++ fill valueOf after := by
  induction before using templateInduction with
  | nil => rw [List.nil_append, fill_spelling, fill_nil, List.nil_append]
  | mark other before ih =>
      rw [List.append_assoc, List.append_assoc, fill_spelling, fill_spelling, ← List.append_assoc,
        ih, List.append_assoc, List.append_assoc, List.append_assoc]
  | letter c before none ih =>
      have absent : first? (c :: (before ++ mark.spelling.toList ++ after)) = Option.none := by
        rw [first?_eq_none_iff] at none ⊢
        intro other begins
        rw [List.append_assoc, spelling_eq mark, List.cons_append, ← List.cons_append] at begins
        exact none other (prefix_of_prefix_append begins)
      rw [List.cons_append, List.cons_append, fill_letter _ _ _ absent, ih, fill_letter _ _ _ none,
        List.cons_append, List.cons_append]

theorem fill_of_absent (text : List Char)
    (absent : ∀ mark : Placeholder, ¬ mark.spelling.toList <:+: text) :
    fill valueOf text = text := by
  induction text using templateInduction with
  | nil => exact fill_nil valueOf
  | mark mark after => exact absurd (List.prefix_append _ _).isInfix (absent mark)
  | letter c rest none ih =>
      rw [fill_letter _ _ _ none, ih]
      exact fun mark inside => absent mark (inside.trans (List.suffix_cons c rest).isInfix)

def both (digits words : List Char) : Placeholder → List Char
  | .count => digits
  | .query => words

/-- Putting in the number leaves the places of the question as they are. -/
theorem replaceFrom_count (digits text : List Char) :
    Text.replaceFrom count.spelling.toList digits 0 text =
      fill (both digits query.spelling.toList) text := by
  induction text using templateInduction with
  | nil => rw [fill_nil, Text.replaceFrom]
  | mark mark after ih =>
      rw [fill_spelling, ← ih]
      cases mark with
      | count => rw [spelling_eq count, Text.replaceFrom_occurrence, both]
      | query =>
          have other := not_count_prefix_query after
          rw [spelling_eq query, List.cons_append] at other
          rw [both, spelling_eq query, List.cons_append,
            Text.replaceFrom_cons_of_not_prefix _ _ _ _ other, spelling_eq count,
            Text.replaceFrom_append_of_not_mem _ _ _ _ _ (opening_not_mem_tail query),
            List.cons_append]
  | letter c rest none ih =>
      have absent := (first?_eq_none_iff _).mp none count
      rw [fill_letter _ _ _ none, ← ih, Text.replaceFrom_cons_of_not_prefix _ _ _ _ absent]

/-- What neither opens a placeholder nor is a digit stands in the template if it stands where the
number was put in. -/
theorem prefix_of_prefix_fill {digits : List Char} (some : digits ≠ [])
    (decimal : ∀ c ∈ digits, c.isDigit) (text part : List Char) (inner : opening ∉ part)
    (plain : ∀ c ∈ part, ¬ c.isDigit)
    (begins : part <+: fill (both digits query.spelling.toList) text) : part <+: text := by
  induction text using templateInduction generalizing part with
  | nil => rwa [fill_nil] at begins
  | mark mark after =>
      cases part with
      | nil => exact List.nil_prefix
      | cons c part =>
          rw [fill_spelling] at begins
          cases mark with
          | count =>
              obtain ⟨digit, more, rfl⟩ := List.exists_cons_of_ne_nil some
              obtain rfl := (List.cons_prefix_cons.mp begins).1
              exact absurd (decimal c List.mem_cons_self) (plain c List.mem_cons_self)
          | query =>
              rw [both, spelling_eq, List.cons_append] at begins
              exact absurd (List.cons_prefix_cons.mp begins).1.symm (List.ne_of_not_mem_cons inner)
  | letter c rest none ih =>
      cases part with
      | nil => exact List.nil_prefix
      | cons first part =>
          rw [fill_letter _ _ _ none] at begins
          obtain ⟨rfl, later⟩ := List.cons_prefix_cons.mp begins
          refine List.cons_prefix_cons.mpr ⟨rfl, ih part ?_ ?_ later⟩
          · exact List.not_mem_of_not_mem_cons inner
          · exact fun c member => plain c (List.mem_cons_of_mem first member)

/-- Putting in the question after the number is putting in both at the same time. -/
theorem replaceFrom_query {digits : List Char} (some : digits ≠ [])
    (decimal : ∀ c ∈ digits, c.isDigit) (words text : List Char) :
    Text.replaceFrom query.spelling.toList words 0
        (fill (both digits query.spelling.toList) text) = fill (both digits words) text := by
  have tail : ∀ c ∈ query.spelling.toList.tail, ¬ c.isDigit := List.any_eq_false.mp (by decide)
  induction text using templateInduction with
  | nil => rw [fill_nil, fill_nil, Text.replaceFrom]
  | mark mark after ih =>
      rw [fill_spelling, fill_spelling, ← ih]
      cases mark with
      | count =>
          have absent : opening ∉ digits := fun member =>
            absurd (decimal opening member) (by decide)
          rw [both, both, spelling_eq query, Text.replaceFrom_append_of_not_mem _ _ _ _ _ absent]
      | query => rw [both, both, spelling_eq query, Text.replaceFrom_occurrence]
  | letter c rest none ih =>
      have absent : ¬ query.spelling.toList <+:
          c :: fill (both digits query.spelling.toList) rest := by
        intro begins
        rw [spelling_eq] at begins
        obtain ⟨rfl, later⟩ := List.cons_prefix_cons.mp begins
        refine (first?_eq_none_iff _).mp none query ?_
        rw [spelling_eq]
        exact List.cons_prefix_cons.mpr ⟨rfl, prefix_of_prefix_fill some decimal rest _
          (opening_not_mem_tail query) tail later⟩
      rw [fill_letter _ _ _ none, fill_letter _ _ _ none,
        Text.replaceFrom_cons_of_not_prefix _ _ _ _ absent, ih]

end Placeholder

/-- The template with both values put in at the same time. -/
def substitute (query : String) (count : Nat) (template : String) : String :=
  String.ofList
    (Placeholder.fill (fun mark => (mark.value query count).toList) template.toList)

theorem toList_substitute (query : String) (count : Nat) (template : String) :
    (substitute query count template).toList =
      Placeholder.fill (fun mark => (mark.value query count).toList) template.toList :=
  String.toList_ofList

/-- What it is to put the values in at the same time. -/
structure Simultaneous (query : String) (count : Nat) (putIn : String → String) : Prop where
  /-- Each occurrence of a placeholder gives way to its value, and what stands before it and after
  it is treated as if it stood alone. -/
  around : ∀ before (mark : Placeholder) after,
    putIn (before ++ mark.spelling ++ after) =
      putIn before ++ mark.value query count ++ putIn after
  /-- All else stays as it is. -/
  plain : ∀ text, (∀ mark : Placeholder, Text.contains text mark.spelling = false) →
    putIn text = text

theorem simultaneous_substitute (query : String) (count : Nat) :
    Simultaneous query count (substitute query count) := by
  constructor
  · intro before mark after
    simp only [substitute, String.toList_append, Placeholder.fill_around, String.ofList_append,
      String.ofList_toList]
  · intro text absent
    rw [substitute, Placeholder.fill_of_absent, String.ofList_toList]
    intro mark inside
    have found : Text.contains text mark.spelling = true := (Text.hasInfix_iff _ _).mpr inside
    exact Bool.false_ne_true ((absent mark).symm.trans found)

theorem Simultaneous.unique {query : String} {count : Nat} {putIn other : String → String}
    (first : Simultaneous query count putIn) (second : Simultaneous query count other) :
    putIn = other := by
  funext text
  induction size : text.toList.length using Nat.strongRecOn generalizing text with
  | ind length ih =>
      subst size
      by_cases absent : ∀ mark : Placeholder, Text.contains text mark.spelling = false
      · rw [first.plain text absent, second.plain text absent]
      · obtain ⟨mark, found⟩ := Classical.not_forall.mp absent
        rw [Bool.not_eq_false, Text.contains, Text.hasInfix_iff] at found
        obtain ⟨before, after, whole⟩ := found
        have parts : text = String.ofList before ++ mark.spelling ++ String.ofList after := by
          rw [← String.toList_inj, String.toList_append, String.toList_append,
            String.toList_ofList, String.toList_ofList, whole]
        have length := congrArg List.length whole
        rw [List.length_append, List.length_append, mark.length_spelling] at length
        rw [parts, first.around, second.around, ih _ _ (String.ofList before) rfl,
          ih _ _ (String.ofList after) rfl]
        · rw [String.toList_ofList]
          omega
        · rw [String.toList_ofList]
          omega

/-- Each argument is its template with both values put in at the same time. -/
theorem renderArguments_eq_map_substitute (templates : List String) (query : String)
    (count : Nat) :
    renderArguments templates query count = templates.map (substitute query count) ∧
      ∀ putIn, Simultaneous query count putIn ↔ putIn = substitute query count := by
  constructor
  · refine List.map_congr_left fun template _ => ?_
    have values : (fun mark => (Placeholder.value query count mark).toList) =
        Placeholder.both (Nat.toDigits 10 count) query.toList := by
      funext mark
      cases mark with
      | count => rw [Placeholder.value, Placeholder.both, Nat.toString_eq_repr, Nat.toList_repr]
      | query => rfl
    have first := Placeholder.replaceFrom_count (Nat.toDigits 10 count) template.toList
    have second := Placeholder.replaceFrom_query (Nat.toDigits_ne_nil (b := 10) (n := count))
      (fun _ => isDigit_of_mem_toDigits) query.toList template.toList
    rw [← String.toList_inj, Text.toList_replaceAll, Text.toList_replaceAll,
      Nat.toString_eq_repr, Nat.toList_repr, toList_substitute, values, ← second, ← first]
    rfl
  · intro putIn
    constructor
    · exact fun simultaneous => simultaneous.unique (simultaneous_substitute query count)
    · rintro rfl
      exact simultaneous_substitute query count

example : renderArguments ["\x7bque\x7btop_k\x7dry\x7d", "\x7bquery\x7d"] "\x7btop_k\x7d" 5 =
    ["\x7bque5ry\x7d", "\x7btop_k\x7d"] := by
  decide +kernel

end SourceIndex.Ranking
