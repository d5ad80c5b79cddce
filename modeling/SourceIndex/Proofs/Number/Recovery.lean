import SourceIndex.Proofs.Json.Decimals
import SourceIndex.Proofs.Number.NearTies
import SourceIndex.Proofs.Number.Scaling
import SourceIndex.Proofs.Number.Shortest

/-
A decimal lies within half a place of the number that it was made for, and reading it changes it by
less than a millionth of a place. That the change does not take it past a tie is shown in one of two
ways: on a grid finer than the numbers the decimal stays away from the ties, and on a coarser one a
decimal near a tie is the tie, which is read exactly.
-/

set_option autoImplicit false

namespace SourceIndex

open Json

namespace FloatFormat

/-- Whether a decimal is read as a number of 32 bits. -/
structure Recovers (decimal : Decimal) (number : Floating) : Prop where
  given : 0 < decimal.digits
  fits : (decimal.parts .single).1 < 2 ^ 53
  small : decimal.exponent.natAbs ≤ 46
  back : (scaled? (decimal.parts .single).1 (decimal.parts .single).2).map single.convert =
    some number

instance (decimal : Decimal) (number : Floating) : Decidable (Recovers decimal number) :=
  decidable_of_iff
    (0 < decimal.digits ∧ (decimal.parts .single).1 < 2 ^ 53 ∧ decimal.exponent.natAbs ≤ 46 ∧
      (scaled? (decimal.parts .single).1 (decimal.parts .single).2).map single.convert =
        some number)
    ⟨fun ⟨given, fits, small, back⟩ => ⟨given, fits, small, back⟩,
      fun recovers => ⟨recovers.given, recovers.fits, recovers.small, recovers.back⟩⟩

theorem convert_of_isNearest {number : Floating} {q : ℚ} {mantissa : Nat} {exponent : Int}
    (canonical : single.Canonical mantissa exponent) (spaced : single.Spaced mantissa exponent)
    (is : number.Is q) (near : IsNearest mantissa (q / 2 ^ exponent)) :
    single.convert number = .finite false mantissa exponent := by
  obtain ⟨n, place, rfl, given, rfl⟩ := is
  have fraction : ((n * Nat.pow 2 place.toNat : Nat) : ℚ) / (Nat.pow 2 (-place).toNat : Nat) =
      amount n place := by
    rw [amount, zpow_eq_div_pow (by norm_num) place, Nat.pow_eq, Nat.pow_eq]
    push_cast
    ring
  rw [← fraction] at near
  refine single.round_of_near (by decide) false (Nat.mul_pos given (Nat.pow_pos (by decide)))
    (Nat.pow_pos (by decide)) canonical near ?_
  rcases canonical.fills with least | fills
  · exact .inl least
  · rcases Nat.lt_or_eq_of_le fills with more | power
    · exact .inr (.inl more)
    · exact .inl (Int.le_antisymm (spaced power.symm) canonical.least)

theorem le_of_pow_five_dvd {n fives twos : Nat} (given : 0 < n) (small : n < 5 ^ 22)
    (divides : 5 ^ fives ∣ n * 2 ^ twos) : fives ≤ 22 := by
  have coprime : Nat.Coprime (5 ^ fives) (2 ^ twos) := Nat.Coprime.pow _ _ (by decide)
  have most := Nat.le_of_dvd given (coprime.dvd_of_dvd_mul_right divides)
  exact (Nat.pow_lt_pow_iff_right (by decide : 1 < 5)).mp (lt_of_le_of_lt most small) |>.le

/-- A small multiple of a power of ten that is a small multiple of a power of two has a small power
of ten, since no factor makes up for the powers of five. -/
theorem natAbs_le_of_tie {digits odd : Nat} {ten two : Int} (given : 0 < digits)
    (few : digits < 10 * 2 ^ 24) (positive : 0 < odd) (small : odd < 2 ^ 25)
    (tie : (digits * 10 ^ ten : ℚ) = odd * 2 ^ two) : ten.natAbs ≤ 22 := by
  have whole : digits * 10 ^ ten.toNat * 2 ^ (-two).toNat =
      odd * 2 ^ two.toNat * 10 ^ (-ten).toNat := by
    rw [zpow_eq_div_pow (by norm_num) ten, zpow_eq_div_pow (by norm_num) two] at tie
    field_simp at tie
    have cast : digits * 10 ^ ten.toNat * 2 ^ (-two).toNat =
        10 ^ (-ten).toNat * odd * 2 ^ two.toNat := by exact_mod_cast tie
    rw [cast]
    ring
  have fives (n : Nat) : 5 ^ n ∣ 10 ^ n := pow_dvd_pow_of_dvd (by decide) n
  rcases Int.le_total 0 ten with up | down
  · have none : (-ten).toNat = 0 := by omega
    rw [none, Nat.pow_zero, Nat.mul_one] at whole
    have divides : 5 ^ ten.toNat ∣ odd * 2 ^ two.toNat :=
      whole ▸ ((fives _).mul_left _).mul_right _
    have := le_of_pow_five_dvd positive (by omega) divides
    omega
  · have none : ten.toNat = 0 := by omega
    rw [none, Nat.pow_zero, Nat.mul_one] at whole
    have divides : 5 ^ (-ten).toNat ∣ digits * 2 ^ (-two).toNat :=
      whole ▸ (fives _).mul_left _
    have := le_of_pow_five_dvd given (by omega) divides
    omega

section

variable {mantissa : Nat} {exponent : Int} {decimal : Decimal}
  (short : IsShort mantissa exponent decimal)

include short

/-- On a grid finer than the numbers the decimal stays away from the ties. -/
theorem IsShort.inside_of_fine
    (fine : (10 : ℚ) ^ decimal.exponent ≤ (1 - 1 / 2 ^ 27) * 2 ^ exponent) :
    |decimal.value - amount mantissa exponent| ≤ 2 ^ exponent / 2 - 2 ^ exponent / 2 ^ 28 := by
  have unit : (0 : ℚ) < 2 ^ exponent := by positivity
  have grid : (0 : ℚ) < 10 ^ decimal.exponent := by positivity
  have near := short.closest (by linarith)
  rw [Decimal.value, abs_mul_sub _ _ grid]
  linarith [mul_le_mul_of_nonneg_right near.close grid.le]

/-- A decimal that is not away from the ties is near one of the two of its number. -/
theorem IsShort.exists_tie (given : 0 < mantissa)
    (outside : ¬ |decimal.value - amount mantissa exponent| ≤
      2 ^ exponent / 2 - 2 ^ exponent / 2 ^ 28) :
    ∃ odd : Nat, (odd = 2 * mantissa + 1 ∨ odd + 1 = 2 * mantissa) ∧
      |decimal.value - odd * 2 ^ (exponent - 1)| < 2 ^ (exponent - 28) := by
  have half : (2 : ℚ) ^ (exponent - 1) = 2 ^ exponent / 2 := zpow_sub_one₀ (by norm_num) _
  have less : (2 : ℚ) ^ (exponent - 28) = 2 ^ exponent / 2 ^ 28 := by
    rw [zpow_sub₀ (by norm_num)]
    norm_num
  obtain ⟨low, high⟩ := abs_le.mp short.close
  have unit : (0 : ℚ) < 2 ^ exponent / 2 ^ 28 := by positivity
  have far := not_le.mp outside
  rw [amount] at low high far
  rw [half, less]
  rcases lt_abs.mp far with above | below
  · refine ⟨2 * mantissa + 1, .inl rfl, ?_⟩
    push_cast
    rw [abs_lt]
    constructor <;> linarith
  · refine ⟨2 * mantissa - 1, .inr (by omega), ?_⟩
    rw [Nat.cast_sub (by omega)]
    push_cast
    rw [abs_lt]
    constructor <;> linarith

variable (canonical : single.Canonical mantissa exponent)

include canonical

/-- What a decimal is read as differs from it by much less than a place of the number. -/
theorem IsShort.read_near {q : ℚ}
    (near : |q - decimal.value| ≤ decimal.value * (1 + 1 / 2 ^ 40) / 2 ^ 52) :
    |q - decimal.value| < 2 ^ exponent / 2 ^ 28 := by
  have unit : (0 : ℚ) < 2 ^ exponent := by positivity
  have bound := short.value_le canonical
  calc |q - decimal.value| ≤ decimal.value * (1 + 1 / 2 ^ 40) / 2 ^ 52 := near
    _ ≤ (2 ^ 24 - 1 / 2) * 2 ^ exponent * (1 + 1 / 2 ^ 40) / 2 ^ 52 := by gcongr
    _ < 2 ^ exponent / 2 ^ 28 := by linarith

/-- A decimal that is not away from the ties is a tie, but for two numbers. -/
theorem IsShort.tie_or_exception
    (outside : ¬ |decimal.value - amount mantissa exponent| ≤
      2 ^ exponent / 2 - 2 ^ exponent / 2 ^ 28) :
    (∃ odd : Nat, 0 < odd ∧ odd < 2 ^ 25 ∧ decimal.value = odd * 2 ^ (exponent - 1)) ∨
      exponent = -107 ∧ (mantissa = 11420669 ∨ mantissa = 11420670) := by
  have coarse := not_le.mp (mt short.inside_of_fine outside)
  have least : (2 : ℚ) ^ (-149 : Int) ≤ 2 ^ exponent :=
    zpow_le_zpow_right₀ (by norm_num) canonical.least
  have low : (10 : ℚ) ^ (-45 : Int) < 10 ^ decimal.exponent := by
    calc (10 : ℚ) ^ (-45 : Int) < (1 - 1 / 2 ^ 27) * 2 ^ (-149 : Int) := by norm_num
      _ ≤ (1 - 1 / 2 ^ 27) * 2 ^ exponent := by gcongr
      _ < 10 ^ decimal.exponent := coarse
  have bottom := (zpow_lt_zpow_iff_right₀ (by norm_num : (1 : ℚ) < 10)).mp low
  obtain ⟨odd, beside, near⟩ := short.exists_tie canonical.some outside
  have fits : mantissa < 2 ^ 24 := canonical.fits
  have some := canonical.some
  rcases NearTies.tie_or_exception (by omega) (short.exponent_bounds canonical).2 short.given
      (by omega) (by omega) coarse near with tie | ⟨-, rfl, -, rfl⟩ | ⟨-, rfl, -, rfl⟩
  · exact .inl ⟨odd, by omega, by omega, tie⟩
  · exact .inr ⟨rfl, by omega⟩
  · -- The second of the two would lie between numbers that use fewer bits than they have.
    rcases canonical.fills with last | fills
    · exact absurd last (by decide)
    · rw [show 2 ^ (single.precision - 1) = 8388608 by decide] at fills
      omega

theorem IsShort.isNearest_read
    (regular : ¬ (exponent = -107 ∧ (mantissa = 11420669 ∨ mantissa = 11420670))) {q : ℚ}
    {ten : Int}
    (scales : Scales decimal.value ten q) (place : ten = decimal.exponent ∨ ten = -1) :
    IsNearest mantissa (q / 2 ^ exponent) := by
  have unit : (0 : ℚ) < 2 ^ exponent := by positivity
  by_cases inside : |decimal.value - amount mantissa exponent| ≤
      2 ^ exponent / 2 - 2 ^ exponent / 2 ^ 28
  · refine .of_lt ?_
    have near := short.read_near canonical scales.near
    have close : |amount mantissa exponent - q| < 2 ^ exponent / 2 := by
      calc |amount mantissa exponent - q|
          ≤ |amount mantissa exponent - decimal.value| + |decimal.value - q| := abs_sub_le _ _ _
        _ < 2 ^ exponent / 2 := by
          rw [abs_sub_comm, abs_sub_comm decimal.value q]
          linarith
    rw [amount, abs_mul_sub _ _ unit] at close
    refine lt_of_mul_lt_mul_right ?_ unit.le
    linarith
  · rcases short.tie_or_exception canonical inside with ⟨odd, positive, small, tie⟩ | exception
    · have few := natAbs_le_of_tie short.given (short.digits_lt canonical) positive small tie
      rw [scales.same (by omega) odd _ (by omega) tie]
      exact short.near
    · exact absurd exception regular

end

/-- The parts of a decimal make up its value, and are small enough to be read exactly. -/
theorem IsShort.parts_spec {mantissa : Nat} {exponent : Int} {decimal : Decimal}
    (short : IsShort mantissa exponent decimal) (canonical : single.Canonical mantissa exponent) :
    0 < (decimal.parts .single).1 ∧ (decimal.parts .single).1 < 2 ^ 53 ∧
      (decimal.parts .single).2.natAbs ≤ 46 ∧
      ((decimal.parts .single).1 * 10 ^ (decimal.parts .single).2 : ℚ) = decimal.value ∧
      ((decimal.parts .single).2 = decimal.exponent ∨ (decimal.parts .single).2 = -1) := by
  have given := short.given
  have few := short.digits_lt canonical
  obtain ⟨low, high⟩ := short.exponent_bounds canonical
  rw [Decimal.parts]
  split
  · rename_i whole
    obtain ⟨natural, short'⟩ := whole
    rw [decimalDigits_eq] at short'
    have point : (Nat.toDigits 10 decimal.digits).length + decimal.exponent.toNat ≤ 13 := by
      change _ ≤ (13 : Int) at short'
      omega
    have bound : decimal.digits < 10 ^ (13 - decimal.exponent.toNat) := by
      have some : 0 < (Nat.toDigits 10 decimal.digits).length := Nat.length_toDigits_pos
      exact (Nat.length_toDigits_le_iff (by decide) (by omega)).mp (by omega)
    refine ⟨Nat.mul_pos given (Nat.pow_pos (by decide)), ?_,
      (by decide : (-1 : Int).natAbs ≤ 46), ?_, .inr rfl⟩
    · calc decimal.digits * 10 ^ (decimal.exponent + 1).toNat
          < 10 ^ (13 - decimal.exponent.toNat) * 10 ^ (decimal.exponent + 1).toNat := by gcongr
        _ = 10 ^ 14 := by
          rw [← Nat.pow_add]
          congr 1
          omega
        _ < 2 ^ 53 := by decide
    · rw [Decimal.value]
      push_cast
      rw [mul_assoc, ← zpow_natCast, ← zpow_add₀ (by norm_num)]
      congr 2
      omega
  · exact ⟨given, by omega, by omega, rfl, .inl rfl⟩

theorem recovers_power_sub : ∀ index < 253,
    Recovers (single.shortest 8388608 ((index : Nat) - 148))
      (.finite false 8388608 ((index : Nat) - 148)) := by
  decide +kernel

/-- Every number of 32 bits is read back from its shortest decimal. -/
theorem recovers_shortest {mantissa : Nat} {exponent : Int}
    (canonical : single.Canonical mantissa exponent) :
    Recovers (single.shortest mantissa exponent) (.finite false mantissa exponent) := by
  by_cases spaced : single.Spaced mantissa exponent
  · by_cases regular : exponent = -107 ∧ (mantissa = 11420669 ∨ mantissa = 11420670)
    · obtain ⟨rfl, rfl | rfl⟩ := regular <;> decide +kernel
    · have short := isShort_shortest canonical spaced
      obtain ⟨given, fits, small, value, place⟩ := short.parts_spec canonical
      obtain ⟨low, high⟩ := short.exponent_bounds canonical
      obtain ⟨number, q, scaled, is, scales⟩ := scaled?_scales given fits small
      rw [value] at scales
      have near := short.isNearest_read canonical regular scales place
      refine ⟨short.given, fits, by omega, ?_⟩
      rw [scaled, Option.map_some, convert_of_isNearest canonical spaced is near]
  · have greatest : exponent ≤ 104 := canonical.greatest
    obtain ⟨power, more⟩ := Classical.not_imp.mp spaced
    have above : -149 < exponent := not_le.mp more
    have recovered := recovers_power_sub (exponent + 148).toNat (by omega)
    rw [show (((exponent + 148).toNat : Nat) : Int) - 148 = exponent by omega] at recovered
    rw [power]
    exact recovered

end FloatFormat

end SourceIndex
