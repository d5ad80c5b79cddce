import SourceIndex.Json.Value
import SourceIndex.Proofs.Text.Digits

set_option autoImplicit false

namespace SourceIndex

theorem isDigit_of_mem_decimalDigits (n : Nat) (c : Char) (member : c ∈ decimalDigits n) :
    c.isDigit := by
  rw [decimalDigits, Nat.toString_eq_repr, Nat.toList_repr] at member
  exact isDigit_of_mem_toDigits member

theorem newLine_not_mem_decimalDigits (n : Nat) : '\n' ∉ decimalDigits n := by
  intro member
  exact absurd (isDigit_of_mem_decimalDigits n '\n' member) (by decide)

theorem Decimal.newLine_not_mem_render (style : DecimalStyle) (decimal : Decimal) :
    '\n' ∉ decimal.render style := by
  have digits := newLine_not_mem_decimalDigits decimal.digits
  have before (count : Nat) : '\n' ∉ (decimalDigits decimal.digits).take count :=
    fun member => digits (List.mem_of_mem_take member)
  have after (count : Nat) : '\n' ∉ (decimalDigits decimal.digits).drop count :=
    fun member => digits (List.mem_of_mem_drop member)
  simp only [Decimal.render]
  split
  · simp [digits, List.mem_replicate]
  · split
    · simp [before, after]
    · split
      · simp [digits, List.mem_replicate]
      · have fraction := after 1
        have exponent (value : Nat) := newLine_not_mem_decimalDigits value
        have sign (negative : Prop) [Decidable negative] :
            '\n' ≠ if negative then '-' else '+' := by split <;> decide
        split
        · simp [before, exponent, sign]
        · simp_all

theorem Floating.newLine_not_mem_render (format : FloatFormat) (style : DecimalStyle)
    (value : Floating) : '\n' ∉ Json.renderFloating format style value := by
  cases value with
  | infinite negative =>
      show '\n' ∉ "null".toList
      decide
  | finite negative mantissa exponent =>
      have decimal :=
        (format.shortest mantissa exponent).newLine_not_mem_render style
      by_cases zero : mantissa = 0 <;> cases negative <;>
        simp [Json.renderFloating, Floating.render?, zero, decimal]

namespace Json

theorem newLine_not_mem_escaped (c : Char) : '\n' ∉ escaped c := by
  have digits : ∀ n < 16, '\n' ≠ hexDigit n := by decide
  unfold escaped
  by_cases newLine : c = '\n'
  · subst newLine; decide
  by_cases control : c.toNat < 0x20
  · have high := digits (c.toNat / 16) (by omega)
    have low := digits (c.toNat % 16) (by omega)
    repeat' split
    all_goals simp [high, low]
  · repeat' split
    all_goals simp [Ne.symm newLine]

theorem newLine_not_mem_quoted (text : List Char) : '\n' ∉ quoted text := by
  simp [quoted, newLine_not_mem_escaped]

mutual

theorem newLine_not_mem_render : (value : Json) → '\n' ∉ value.render none
  | null => by decide
  | bool true => by decide
  | bool false => by decide
  | integer value => by
      simp [render, renderInteger]
      split <;> simp [newLine_not_mem_decimalDigits]
  | double value => value.newLine_not_mem_render .double .double
  | single value => value.newLine_not_mem_render .single .single
  | string value => newLine_not_mem_quoted value.toList
  | array [] => by decide
  | array (item :: items) => by
      have first := newLine_not_mem_render item
      have later := newLine_not_mem_renderItems items
      simp [render, Layout.inner, Layout.newLine, first, later]
  | object [] => by decide
  | object ((name, value) :: members) => by
      have first := newLine_not_mem_render value
      have later := newLine_not_mem_renderMembers members
      simp [render, Layout.inner, Layout.newLine, Layout.colon, newLine_not_mem_quoted, first,
        later]

theorem newLine_not_mem_renderItems : (items : List Json) → '\n' ∉ renderItems none items
  | [] => by decide
  | item :: items => by
      have first := newLine_not_mem_render item
      have later := newLine_not_mem_renderItems items
      simp [renderItems, Layout.inner, Layout.newLine, first, later]

theorem newLine_not_mem_renderMembers :
    (members : List (String × Json)) → '\n' ∉ renderMembers none members
  | [] => by decide
  | (name, value) :: members => by
      have first := newLine_not_mem_render value
      have later := newLine_not_mem_renderMembers members
      simp [renderMembers, Layout.inner, Layout.newLine, Layout.colon, newLine_not_mem_quoted,
        first, later]

end

end Json

end SourceIndex
