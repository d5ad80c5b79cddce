import SourceIndex.Json.Scan
import SourceIndex.Proofs.Number.Rounding

set_option autoImplicit false

namespace SourceIndex

def Floating.Is (number : Floating) (q : ℚ) : Prop :=
  ∃ mantissa exponent, number = .finite false mantissa exponent ∧ 0 < mantissa ∧
    amount mantissa exponent = q

/-- What rounding to 64 bits may make of a rational: it changes little, and nothing if the bits of
the rational fit. -/
structure Rounds (q rounded : ℚ) : Prop where
  near : |rounded - q| ≤ q / 2 ^ 53
  same (whole : Nat) (place : Int) (fits : whole < 2 ^ 53) (exact' : q = amount whole place) :
    rounded = q

/-- Rationals of a moderate size. -/
structure Moderate (q : ℚ) : Prop where
  low : (2 : ℚ) ^ (-250 : Int) ≤ q
  high : q < 2 ^ (250 : Int)

theorem Moderate.of_bounds {q : ℚ} (low : 1 / 10 ^ 75 ≤ q) (high : q ≤ 10 ^ 75) : Moderate q :=
  ⟨le_trans (by norm_num) low, lt_of_le_of_lt high (by norm_num)⟩

namespace FloatFormat

theorem round_rounds {above below : Nat} (given : 0 < above) (positive : 0 < below)
    (moderate : Moderate (above / below)) :
    ∃ rounded, (double.round false above below).Is rounded ∧ Rounds (above / below) rounded := by
  have bits : 0 < double.precision := by decide
  have two {less more : Int} (le : less ≤ more) : (2 : ℚ) ^ less ≤ 2 ^ more :=
    zpow_le_zpow_right₀ (by norm_num) le
  have low : (2 : ℚ) ^ (double.precision + double.least - 1) ≤ above / below :=
    (two (by decide)).trans moderate.low
  have high : (above : ℚ) / below < 2 ^ (double.precision + double.greatest - 1) :=
    lt_of_lt_of_le moderate.high (two (by decide))
  obtain ⟨mantissa, exponent, rounded, some, near⟩ :=
    double.round_error bits false given positive low high
  refine ⟨_, ⟨mantissa, exponent, rounded, some, rfl⟩, near, fun whole place fits exact' => ?_⟩
  obtain ⟨other, last, again, -, same⟩ :=
    double.round_exact bits false given positive low high fits exact'
  cases rounded.symm.trans again
  exact same

theorem ofNat_rounds {n : Nat} (given : 0 < n) (moderate : Moderate n) :
    ∃ rounded, (double.ofNat n).Is rounded ∧ Rounds n rounded := by
  have whole : ((n : ℚ) / (1 : Nat)) = n := by rw [Nat.cast_one, div_one]
  obtain ⟨rounded, is, rounds⟩ := round_rounds given Nat.one_pos (whole.symm ▸ moderate)
  exact ⟨rounded, is, whole ▸ rounds⟩

theorem multiply_rounds {number other : Floating} {p q : ℚ} (first : number.Is p)
    (second : other.Is q) (moderate : Moderate (p * q)) :
    ∃ rounded, (double.multiply number other).Is rounded ∧ Rounds (p * q) rounded := by
  obtain ⟨m, a, rfl, positive, rfl⟩ := first
  obtain ⟨n, b, rfl, more, rfl⟩ := second
  have fraction : ((m * n * Nat.pow 2 (a + b).toNat : Nat) : ℚ) /
      (Nat.pow 2 (-(a + b)).toNat : Nat) = amount m a * amount n b := by
    have power := zpow_eq_div_pow (by norm_num : (2 : ℚ) ≠ 0) (a + b)
    rw [zpow_add₀ (by norm_num)] at power
    rw [amount, amount, mul_mul_mul_comm, power, Nat.pow_eq, Nat.pow_eq]
    push_cast
    ring
  rw [← fraction] at moderate ⊢
  exact round_rounds (Nat.mul_pos (Nat.mul_pos positive more) (Nat.pow_pos (by decide)))
    (Nat.pow_pos (by decide)) moderate

theorem divide_rounds {number other : Floating} {p q : ℚ} (first : number.Is p)
    (second : other.Is q) (moderate : Moderate (p / q)) :
    ∃ rounded, (double.divide number other).Is rounded ∧ Rounds (p / q) rounded := by
  obtain ⟨m, a, rfl, positive, rfl⟩ := first
  obtain ⟨n, b, rfl, more, rfl⟩ := second
  have fraction : ((m * Nat.pow 2 (a - b).toNat : Nat) : ℚ) / (n * Nat.pow 2 (b - a).toNat : Nat) =
      amount m a / amount n b := by
    have power := zpow_eq_div_pow (by norm_num : (2 : ℚ) ≠ 0) (a - b)
    rw [zpow_sub₀ (by norm_num), neg_sub] at power
    rw [amount, amount, mul_div_mul_comm, power, Nat.pow_eq, Nat.pow_eq]
    push_cast
    field_simp
  rw [← fraction] at moderate ⊢
  exact round_rounds (Nat.mul_pos positive (Nat.pow_pos (by decide)))
    (Nat.mul_pos more (Nat.pow_pos (by decide))) moderate

end FloatFormat

namespace Json

/-- What a product with a power of ten may be read as. -/
structure Scales (q : ℚ) (exponent : Int) (scaled : ℚ) : Prop where
  near : |scaled - q| ≤ q * (1 + 1 / 2 ^ 40) / 2 ^ 52
  same (small : exponent.natAbs ≤ 22) (whole : Nat) (place : Int) (fits : whole < 2 ^ 53)
    (exact' : q = amount whole place) : scaled = q

theorem powerOfTen_rounds {exponent : Nat} (small : exponent ≤ 46) :
    ∃ power, (powerOfTen exponent).Is power ∧ Rounds (10 ^ exponent) power ∧
      (exponent ≤ 22 → power = 10 ^ exponent) := by
  have least : (1 : ℚ) ≤ 10 ^ exponent := one_le_pow₀ (by norm_num)
  have most : (10 : ℚ) ^ exponent ≤ 10 ^ 46 := pow_le_pow_right₀ (by norm_num) small
  have cast : ((10 ^ exponent : Nat) : ℚ) = 10 ^ exponent := by push_cast; rfl
  have moderate : Moderate ((10 ^ exponent : Nat) : ℚ) :=
    .of_bounds (by rw [cast]; linarith) (by rw [cast]; linarith)
  obtain ⟨power, is, rounds⟩ := FloatFormat.ofNat_rounds (Nat.pow_pos (by decide)) moderate
  rw [cast] at rounds
  refine ⟨power, is, rounds, fun few => rounds.same (5 ^ exponent) exponent ?_ ?_⟩
  · calc 5 ^ exponent ≤ 5 ^ 22 := Nat.pow_le_pow_right (by decide) few
      _ < 2 ^ 53 := by decide
  · rw [amount, zpow_natCast]
    push_cast
    rw [← mul_pow]
    norm_num

theorem significand_is {significand : Nat} (given : 0 < significand) (fits : significand < 2 ^ 53) :
    (FloatFormat.double.ofNat significand).Is significand := by
  have least : (1 : ℚ) ≤ significand := by exact_mod_cast given
  have most : (significand : ℚ) < 2 ^ 53 := by exact_mod_cast fits
  obtain ⟨whole, is, rounds⟩ := FloatFormat.ofNat_rounds given
    (.of_bounds (by linarith) (by linarith))
  rwa [rounds.same significand 0 fits (by rw [amount, zpow_zero, mul_one])] at is

theorem product_near {factor power rounded : ℚ} (positive : 0 < factor) (some : 0 < power)
    (near : |rounded - power| ≤ power / 2 ^ 53) :
    |factor * rounded - factor * power| ≤ factor * power * (1 + 1 / 2 ^ 50) / 2 ^ 53 := by
  rw [← mul_sub, abs_mul, abs_of_pos positive]
  calc factor * |rounded - power| ≤ factor * (power / 2 ^ 53) := by gcongr
    _ = factor * power * 1 / 2 ^ 53 := by ring
    _ ≤ factor * power * (1 + 1 / 2 ^ 50) / 2 ^ 53 := by gcongr; norm_num

theorem quotient_near {factor power rounded : ℚ} (positive : 0 < factor) (some : 0 < power)
    (near : |rounded - power| ≤ power / 2 ^ 53) :
    |factor / rounded - factor / power| ≤ factor / power * (1 + 1 / 2 ^ 50) / 2 ^ 53 := by
  obtain ⟨low, high⟩ := abs_le.mp near
  have given : 0 < rounded := by linarith
  have apart : factor / rounded - factor / power =
      -(factor / power * ((rounded - power) / rounded)) := by
    field_simp
    ring
  rw [apart, abs_neg, abs_mul, abs_of_pos (div_pos positive some), abs_div, abs_of_pos given,
    mul_div_assoc]
  refine mul_le_mul_of_nonneg_left ?_ (div_pos positive some).le
  rw [div_le_iff₀ given]
  linarith

theorem near_of_steps {q step rounded : ℚ} (positive : 0 < q)
    (first : |step - q| ≤ q * (1 + 1 / 2 ^ 50) / 2 ^ 53)
    (second : |rounded - step| ≤ step / 2 ^ 53) :
    |rounded - q| ≤ q * (1 + 1 / 2 ^ 40) / 2 ^ 52 := by
  obtain ⟨low, high⟩ := abs_le.mp first
  obtain ⟨lower, higher⟩ := abs_le.mp second
  rw [abs_le]
  constructor <;> linarith

theorem scaled?_scales {significand : Nat} {exponent : Int} (given : 0 < significand)
    (fits : significand < 2 ^ 53) (small : exponent.natAbs ≤ 46) :
    ∃ number scaled, scaled? significand exponent = some number ∧ number.Is scaled ∧
      Scales (significand * 10 ^ exponent) exponent scaled := by
  have is := significand_is given fits
  have least : (1 : ℚ) ≤ significand := by exact_mod_cast given
  have most : (significand : ℚ) ≤ 2 ^ 53 := by exact_mod_cast fits.le
  obtain ⟨power, isPower, near, exact'⟩ := powerOfTen_rounds small
  have one : (1 : ℚ) ≤ 10 ^ exponent.natAbs := one_le_pow₀ (by norm_num)
  have ten : (10 : ℚ) ^ exponent.natAbs ≤ 10 ^ 46 := pow_le_pow_right₀ (by norm_num) small
  obtain ⟨low, high⟩ := abs_le.mp near.near
  have half : 1 / 2 ≤ power := by linarith
  have top : power ≤ 10 ^ 47 := by linarith
  have positive : 0 < power := by linarith
  by_cases negative : exponent < 0
  · have value : (significand * 10 ^ exponent : ℚ) = significand / 10 ^ exponent.natAbs := by
      rw [div_eq_mul_inv, ← zpow_natCast, ← zpow_neg]
      congr 2
      omega
    have moderate : Moderate (significand / power) := by
      refine .of_bounds ?_ ?_
      · rw [le_div_iff₀ positive]
        linarith
      · rw [div_le_iff₀ positive]
        linarith
    obtain ⟨scaled, isScaled, rounds⟩ := FloatFormat.divide_rounds is isPower moderate
    rw [value]
    refine ⟨_, scaled, ?_, isScaled, ?_, fun few => ?_⟩
    · have steps : exponent.natAbs ≤ 308 := by omega
      simp only [scaled?, if_pos negative, divideByPower, if_pos steps]
    · exact near_of_steps (by positivity) (quotient_near (by linarith) (by linarith) near.near)
        rounds.near
    · rw [← exact' few]
      exact rounds.same
  · have value : (significand * 10 ^ exponent : ℚ) = significand * 10 ^ exponent.natAbs := by
      rw [← zpow_natCast]
      congr 2
      omega
    have moderate : Moderate (significand * power) := by
      refine .of_bounds ?_ ?_
      · calc (1 : ℚ) / 10 ^ 75 ≤ 1 * (1 / 2) := by norm_num
          _ ≤ significand * power := by gcongr
      · calc (significand : ℚ) * power ≤ 2 ^ 53 * 10 ^ 47 := by gcongr
          _ ≤ 10 ^ 75 := by norm_num
    obtain ⟨scaled, isScaled, rounds⟩ := FloatFormat.multiply_rounds is isPower moderate
    rw [value]
    refine ⟨_, scaled, ?_, isScaled, ?_, fun few => ?_⟩
    · obtain ⟨mantissa, place, finite, -⟩ := isScaled
      have size : exponent ≤ 308 := by omega
      have count : exponent.toNat = exponent.natAbs := by omega
      simp only [scaled?, if_neg negative, if_pos size, count, finite, Floating.isInfinite,
        Bool.false_eq_true, ↓reduceIte]
    · exact near_of_steps (by positivity) (product_near (by linarith) (by linarith) near.near)
        rounds.near
    · rw [← exact' few]
      exact rounds.same

end Json

end SourceIndex
