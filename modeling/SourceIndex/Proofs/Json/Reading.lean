import SourceIndex.Json.Reader

set_option autoImplicit false

namespace SourceIndex

theorem bind_eq_ok {ε α β : Type} {first : Except ε α} {next : α → Except ε β} {result : β} :
    (first >>= next) = .ok result ↔ ∃ value, first = .ok value ∧ next value = .ok result := by
  cases first with
  | error reason =>
      constructor
      · intro read
        cases read
      · rintro ⟨value, given, -⟩
        cases given
  | ok value =>
      constructor
      · exact fun read => ⟨value, rfl, read⟩
      · rintro ⟨value, given, read⟩
        cases given
        exact read

namespace Json

/-- A number as it is read: a whole one that fits a word, or a negative one that fits its half, and
else a number of 64 bits. -/
inductive Numeric : Json → Prop
  | integer (value : Int) (low : -(Nat.pow 2 63 : Nat) ≤ value)
      (high : value < significandBound) : Numeric (.integer value)
  | double (value : Floating) : Numeric (.double value)

theorem wholeNumber_numeric (positive : Bool) (significand : Nat)
    (fits : significand < significandBound) : Numeric (wholeNumber positive significand) := by
  unfold wholeNumber
  split
  · exact .integer _ (by omega) (by omega)
  · split
    · exact .double _
    · rename_i other
      simp only [Bool.or_eq_true, beq_iff_eq, decide_eq_true_eq, not_or, Nat.not_lt] at other
      exact .integer _ (by omega) (by omega)

theorem asDouble_numeric {read : Except Fault (Floating × List Char)} {value : Json}
    {rest : List Char} (given : asDouble read = .ok (value, rest)) : Numeric value := by
  unfold asDouble at given
  split at given
  · cases given
    exact .double _
  · cases given

theorem scanAfterWhole_numeric {positive : Bool} {significand : Nat} {text rest : List Char}
    {value : Json} (fits : significand < significandBound)
    (read : scanAfterWhole positive significand text = .ok (value, rest)) : Numeric value := by
  unfold scanAfterWhole at read
  split at read
  · exact asDouble_numeric read
  · exact asDouble_numeric read
  · exact asDouble_numeric read
  · cases read
    exact wholeNumber_numeric positive significand fits

theorem scanWhole_numeric {positive : Bool} {significand : Nat} {text rest : List Char}
    {value : Json} (fits : significand < significandBound)
    (read : scanWhole positive significand text = .ok (value, rest)) : Numeric value := by
  induction text generalizing significand with
  | nil =>
      cases read
      exact wholeNumber_numeric positive significand fits
  | cons c text ih =>
      simp only [scanWhole] at read
      split at read
      · exact scanAfterWhole_numeric fits read
      · split at read
        · rename_i room
          exact ih room read
        · exact asDouble_numeric read

theorem digit?_lt {c : Char} {digit : Nat} (found : digit? c = some digit) : digit < 10 := by
  unfold digit? at found
  split at found
  · rename_i range
    have high : c.toNat ≤ '9'.toNat := range.2
    cases found
    have nine : '9'.toNat = 57 := rfl
    have zero : '0'.toNat = 48 := rfl
    omega
  · cases found

theorem scanNumber_numeric {positive : Bool} {text rest : List Char} {value : Json}
    (read : scanNumber positive text = .ok (value, rest)) : Numeric value := by
  have bound : (10 : Nat) < significandBound := by decide
  unfold scanNumber at read
  split at read
  · cases read
  · split at read
    · cases read
    · split at read
      · split at read
        · cases read
        · exact scanAfterWhole_numeric (by decide) read
      · exact scanAfterWhole_numeric (by decide) read
    · rename_i digit found
      have small := digit?_lt found
      exact scanWhole_numeric (by omega) read

/-- What is read of a value that begins with a character, where the values in it are read by
`inner`. -/
inductive ReadFrom (bound : Nat) (inner : Option (Scan Json)) : Char → Json → Prop
  | null : ReadFrom bound inner 'n' .null
  | yes : ReadFrom bound inner 't' (.bool true)
  | no : ReadFrom bound inner 'f' (.bool false)
  | number (c : Char) (value : Json) (opens : (c == '-' || isDigit c) = true)
      (numeric : Numeric value) : ReadFrom bound inner c value
  | string (value : String) : ReadFrom bound inner '"' (.string value)
  | array (read : Scan Json) (items : List Json) (text rest : List Char)
      (given : inner = some read) (within : readItems read bound [] text = .ok (items, rest)) :
      ReadFrom bound inner '[' (.array items)
  | object (read : Scan Json) (members : List (String × Json)) (text rest : List Char)
      (given : inner = some read)
      (within : readMembers bound (fun (members : List (String × Json)) name => fun text => do
        let text ← scanColon text
        let (value, text) ← read text
        return (insertMember name value members, text)) bound true [] text =
          .ok (members, rest)) :
      ReadFrom bound inner '\x7b' (.object members)

/-- Every value that is read begins with a character that tells what it may be. -/
theorem readWith_eq_ok {bound : Nat} {inner : Option (Scan Json)} {text rest : List Char}
    {value : Json} (read : readWith bound inner text = .ok (value, rest)) :
    ∃ c later, skipSpaces text = c :: later ∧ ReadFrom bound inner c value := by
  unfold readWith at read
  split at read
  · cases read
  rename_i c later text
  refine ⟨c, later, text, ?_⟩
  split at read
  · rename_i null
    obtain ⟨_, -, same⟩ := bind_eq_ok.mp read
    cases same
    exact beq_iff_eq.mp null ▸ .null
  split at read
  · rename_i yes
    obtain ⟨_, -, same⟩ := bind_eq_ok.mp read
    cases same
    exact beq_iff_eq.mp yes ▸ .yes
  split at read
  · rename_i no
    obtain ⟨_, -, same⟩ := bind_eq_ok.mp read
    cases same
    exact beq_iff_eq.mp no ▸ .no
  split at read
  · rename_i minus
    exact .number c value (by rw [minus, Bool.true_or]) (scanNumber_numeric read)
  split at read
  · rename_i digit
    exact .number c value (by rw [digit, Bool.or_true]) (scanNumber_numeric read)
  split at read
  · rename_i quote
    obtain ⟨⟨string, after⟩, -, same⟩ := bind_eq_ok.mp read
    cases same
    exact beq_iff_eq.mp quote ▸ .string string
  split at read
  · rename_i bracket
    split at read
    · cases read
    · rename_i inner
      obtain ⟨⟨items, after⟩, within, closed⟩ := bind_eq_ok.mp read
      obtain ⟨_, -, same⟩ := bind_eq_ok.mp closed
      cases same
      exact beq_iff_eq.mp bracket ▸ .array inner items later after rfl within
  split at read
  · rename_i brace
    split at read
    · cases read
    · rename_i inner
      obtain ⟨⟨members, after⟩, within, closed⟩ := bind_eq_ok.mp read
      obtain ⟨_, -, same⟩ := bind_eq_ok.mp closed
      cases same
      exact beq_iff_eq.mp brace ▸ .object inner members later after rfl within
  · cases read

/-- What holds of every item that may be read holds of all that are. -/
theorem forall_mem_readItems {α : Type} {P : α → Prop} {item : Scan α}
    (each : ∀ text value rest, item text = .ok (value, rest) → P value) {fuel : Nat}
    {found values : List α} {text rest : List Char} (before : ∀ value ∈ found, P value)
    (read : readItems item fuel found text = .ok (values, rest)) : ∀ value ∈ values, P value := by
  induction fuel generalizing found text with
  | zero => cases read
  | succ fuel ih =>
      unfold readItems at read
      obtain ⟨⟨more, later⟩, -, read⟩ := bind_eq_ok.mp read
      cases more with
      | true =>
          obtain ⟨⟨value, later⟩, here, read⟩ := bind_eq_ok.mp read
          exact ih (List.forall_mem_cons.mpr ⟨each _ value later here, before⟩) read
      | false =>
          cases read
          exact fun value member => before value (List.mem_reverse.mp member)

/-- What every member keeps of what was made of the members before it holds in the end. -/
theorem readMembers_keeps {σ : Type} {P : σ → Prop} {bound : Nat} {member : σ → String → Scan σ}
    (each : ∀ before name text after rest, P before →
      member before name text = .ok (after, rest) → P after) {fuel : Nat} {first : Bool}
    {before after : σ} {text rest : List Char} (start : P before)
    (read : readMembers bound member fuel first before text = .ok (after, rest)) : P after := by
  induction fuel generalizing first before text with
  | zero => cases read
  | succ fuel ih =>
      unfold readMembers at read
      obtain ⟨⟨more, later⟩, -, read⟩ := bind_eq_ok.mp read
      cases more with
      | true =>
          obtain ⟨⟨name, later⟩, -, read⟩ := bind_eq_ok.mp read
          obtain ⟨⟨between, later⟩, here, read⟩ := bind_eq_ok.mp read
          exact ih (each _ name _ between later start here) read
      | false =>
          cases read
          exact start

end Json

end SourceIndex
