import Mathlib.Data.Nat.GCD.Basic
import SourceIndex.Proofs.Number.Rounding

/-
A tie is a point halfway between numbers of 24 bits. Where a power of ten is not much finer than the
numbers, a multiple of it that is nearer to a tie than the errors of reading can tell is the tie
itself, with two exceptions.

For each power of ten the argument is one fraction. What is near a tie makes a product of the
fraction nearly a natural, and so, since the denominator of the fraction is small, a natural; but
the denominator is larger than what is multiplied.
-/

set_option autoImplicit false

namespace SourceIndex.NearTies

/-- The exponent of a power of two below `10 ^ ten`. -/
def powerBelow (ten : Int) : Int :=
  if 0 ≤ ten then Nat.log2 (10 ^ ten.toNat) else -(Nat.log2 (10 ^ (-ten).toNat)) - 1

/-- The ratio of `2 * 10 ^ ten` to the power of two, as a fraction of naturals. -/
def slope (ten : Int) : Nat × Nat :=
  (2 * 10 ^ ten.toNat * 2 ^ (-powerBelow ten).toNat,
    10 ^ (-ten).toNat * 2 ^ (powerBelow ten).toNat)

/-- The most that is multiplied by the slope before the product passes the ties. -/
def reach (ten : Int) : Nat := 2 ^ 25 * (slope ten).2 / (slope ten).1

/-- How far a fraction misses the slope, over the product of the denominators. -/
def miss (ten : Int) (p q : Nat) : Nat :=
  ((slope ten).1 * q - (slope ten).2 * p : Int).natAbs

/-- The powers of ten with a multiple that is near a tie and is none. -/
def exceptions : List Int := [-32, 14]

/-- Whether a fraction leaves a power of ten no multiple near a tie but a tie, or an exception. -/
structure Settles (ten : Int) (p q : Nat) : Prop where
  positive : 0 < q
  /-- The slope is so far below four that the power of two is no finer than the numbers. -/
  gentle : (slope ten).1 * 2 ^ 25 < (2 ^ 27 - 1) * (slope ten).2
  close : (slope ten).2 * q + reach ten * miss ten p q * 2 ^ 27 ≤ (slope ten).2 * 2 ^ 27
  far : miss ten p q = 0 ∨ Nat.gcd p q = 1 ∧
    (reach ten < q ∨ ten ∈ exceptions ∧ q % 2 = 1 ∧ reach ten < 3 * q)

instance (ten : Int) (p q : Nat) : Decidable (Settles ten p q) :=
  decidable_of_iff
    (0 < q ∧ (slope ten).1 * 2 ^ 25 < (2 ^ 27 - 1) * (slope ten).2 ∧
      (slope ten).2 * q + reach ten * miss ten p q * 2 ^ 27 ≤ (slope ten).2 * 2 ^ 27 ∧
      (miss ten p q = 0 ∨ Nat.gcd p q = 1 ∧
        (reach ten < q ∨ ten ∈ exceptions ∧ q % 2 = 1 ∧ reach ten < 3 * q)))
    ⟨fun ⟨positive, gentle, close, far⟩ => ⟨positive, gentle, close, far⟩,
      fun settles => ⟨settles.positive, settles.gentle, settles.close, settles.far⟩⟩

/-- For each power of ten from `10 ^ -44` a fraction that settles it, found among the convergents of
its slope and the fractions between them. -/
def fractions : List (Nat × Nat) :=
  [(201359248, 56432881), (47061189, 21102967), (54992977, 19727763), (45078242, 12936821),
   (202836600, 93137999), (119446499, 43877714), (134099251, 39408228), (51023178, 23990983),
   (73918103, 27804900), (73918103, 22243920), (97181107, 46791001), (91365356, 35192655),
   (22841339, 7038531), (41784293, 20601247), (38997747, 15381899), (211004426, 66581257),
   (44743261, 11294787), (82717606, 33409375), (41358803, 13363750), (41358803, 10691000),
   (41358803, 17105600), (41358803, 13684480), (41358803, 10947584), (34247133, 14504225),
   (34247133, 11603380), (34247133, 9282704), (60991247, 26450737), (124917013, 43339295),
   (124917013, 34671436), (57749318, 25645849), (37983272, 13494369), (47479090, 13494369),
   (256917169, 116832402), (134217728, 48828125), (33554432, 9765625), (4194304, 1953125),
   (1048576, 390625), (262144, 78125), (32768, 15625), (8192, 3125), (2048, 625), (256, 125),
   (64, 25), (16, 5), (2, 1), (5, 2), (25, 8), (125, 32), (625, 256), (3125, 1024),
   (15625, 4096), (78125, 32768), (390625, 131072), (1953125, 524288), (9765625, 4194304),
   (48828125, 16777216), (41903284, 11518287), (106356581, 46776119), (13494369, 4747909),
   (102583396, 28874659), (128229245, 57749318), (48429874, 17448701), (110893527, 31962883),
   (57992053, 26744114), (113688277, 41943571), (44067997, 13006577), (87580672, 41358803),
   (109475840, 41358803), (136844800, 41358803), (85528000, 41358803), (106910000, 41358803),
   (53149033, 16448829), (76688579, 37974345), (76688579, 30379476), (36259291, 11491028),
   (148323497, 37604474), (56308248, 22841339), (70385310, 22841339), (175963275, 45682678),
   (82381273, 34219842), (37893433, 12592253), (93503233, 24857423), (152250341, 64760133)]

def fraction (ten : Int) : Nat × Nat := fractions.getD (ten + 44).toNat (0, 1)

theorem settles_fraction_sub : ∀ index < 83,
    Settles ((index : Nat) - 44) (fraction ((index : Nat) - 44)).1
      (fraction ((index : Nat) - 44)).2 := by
  decide +kernel

theorem settles_fraction {ten : Int} (low : -44 ≤ ten) (high : ten ≤ 38) :
    Settles ten (fraction ten).1 (fraction ten).2 := by
  have settles := settles_fraction_sub (ten + 44).toNat (by omega)
  rwa [show (((ten + 44).toNat : Nat) : Int) - 44 = ten by omega] at settles

theorem slope_pos (ten : Int) : 0 < (slope ten).1 ∧ 0 < (slope ten).2 := by
  simp only [slope]
  constructor <;> positivity

theorem slope_ratio (ten : Int) :
    ((slope ten).1 : ℚ) / (slope ten).2 = 2 * 10 ^ ten / 2 ^ powerBelow ten := by
  rw [zpow_eq_div_pow (by norm_num) ten, zpow_eq_div_pow (by norm_num) (powerBelow ten)]
  simp only [slope]
  push_cast
  field_simp

section

variable {ten : Int} {p q : Nat} (settles : Settles ten p q)

include settles

/-- A product of the slope near a natural is a natural for the fraction. -/
theorem Settles.product_eq {n m : Nat} (reached : n ≤ reach ten)
    (near : |(n * (slope ten).1 - m * (slope ten).2 : Int)| * 2 ^ 27 < (slope ten).2) :
    n * p = m * q := by
  have positive : (0 : Int) < (slope ten).2 := by exact_mod_cast (slope_pos ten).2
  have some : (0 : Int) < q := by exact_mod_cast settles.positive
  have close : ((slope ten).2 * q + reach ten * miss ten p q * 2 ^ 27 : Int) ≤
      (slope ten).2 * 2 ^ 27 := by exact_mod_cast settles.close
  have missed : (miss ten p q : Int) = |((slope ten).1 * q - (slope ten).2 * p : Int)| :=
    Int.natCast_natAbs _
  have most : (n : Int) * miss ten p q ≤ reach ten * miss ten p q := by gcongr
  have split : ((slope ten).2 * (n * p - m * q) : Int) =
      q * (n * (slope ten).1 - m * (slope ten).2) -
        n * ((slope ten).1 * q - (slope ten).2 * p) := by ring
  have bound : (slope ten).2 * |(n * p - m * q : Int)| * 2 ^ 27 < (slope ten).2 * 2 ^ 27 := by
    calc ((slope ten).2 : Int) * |(n * p - m * q : Int)| * 2 ^ 27
        = |((slope ten).2 * (n * p - m * q) : Int)| * 2 ^ 27 := by
          rw [abs_mul, abs_of_pos positive]
      _ ≤ (|(q * (n * (slope ten).1 - m * (slope ten).2) : Int)| +
            |(n * ((slope ten).1 * q - (slope ten).2 * p) : Int)|) * 2 ^ 27 := by
          rw [split]
          gcongr
          exact abs_sub _ _
      _ = q * (|(n * (slope ten).1 - m * (slope ten).2 : Int)| * 2 ^ 27) +
            n * miss ten p q * 2 ^ 27 := by
          rw [abs_mul, abs_mul, missed, abs_of_pos some, Nat.abs_cast]
          ring
      _ < q * (slope ten).2 + n * miss ten p q * 2 ^ 27 := by gcongr
      _ ≤ (slope ten).2 * 2 ^ 27 := by linarith
  have unit : (0 : Int) < (slope ten).2 * 2 ^ 27 := by positivity
  have small : |(n * p - m * q : Int)| < 1 := lt_of_mul_lt_mul_left (by linarith) unit.le
  have same : (n * p : Int) = m * q := sub_eq_zero.mp (Int.abs_lt_one_iff.mp small)
  exact_mod_cast same

/-- A product of the slope near an odd natural is the natural, or the power of ten is an exception
and the fraction tells the two. -/
theorem Settles.exact_or_exception {n m : Nat} (given : 0 < n) (odd : m % 2 = 1)
    (reached : n ≤ reach ten)
    (near : |(n * (slope ten).1 - m * (slope ten).2 : Int)| * 2 ^ 27 < (slope ten).2) :
    n * (slope ten).1 = m * (slope ten).2 ∨
      ten ∈ exceptions ∧ q % 2 = 1 ∧ n = q ∧ m = p := by
  have product := settles.product_eq reached near
  rcases settles.far with none | ⟨coprime, far⟩
  · left
    have equal : (slope ten).1 * q = (slope ten).2 * p := by
      have apart := Int.natAbs_eq_zero.mp none
      have equal : ((slope ten).1 * q : Int) = (slope ten).2 * p := by linarith
      exact_mod_cast equal
    refine Nat.eq_of_mul_eq_mul_right settles.positive ?_
    calc n * (slope ten).1 * q = n * ((slope ten).1 * q) := Nat.mul_assoc _ _ _
      _ = n * p * (slope ten).2 := by rw [equal]; ring
      _ = m * (slope ten).2 * q := by rw [product]; ring
  · right
    obtain ⟨factor, rfl⟩ : q ∣ n :=
      (Nat.Coprime.symm coprime).dvd_of_dvd_mul_right ⟨m, by rw [product, Nat.mul_comm]⟩
    have some := Nat.pos_of_mul_pos_left given
    have multiple : m = factor * p := by
      refine Nat.eq_of_mul_eq_mul_right settles.positive ?_
      rw [← product]
      ring
    rcases far with wide | ⟨exception, oddBelow, wide⟩
    · have least := Nat.le_mul_of_pos_right q some
      omega
    · have less : factor < 3 := by
        refine Nat.lt_of_mul_lt_mul_left (a := q) ?_
        omega
      have single : factor = 1 := by
        subst multiple
        have : factor ≠ 2 := by
          rintro rfl
          omega
        omega
      subst single
      exact ⟨exception, oddBelow, Nat.mul_one q, by rw [multiple, Nat.one_mul]⟩

end

/-- What is not much finer than the numbers lies above a power of two that is no finer. -/
theorem Settles.finer {ten exponent : Int} {p q : Nat} (settles : Settles ten p q)
    (coarse : (1 - 1 / 2 ^ 27 : ℚ) * 2 ^ exponent < 10 ^ ten) : exponent ≤ powerBelow ten := by
  have positive : (0 : ℚ) < (slope ten).2 := by exact_mod_cast (slope_pos ten).2
  have gentle : ((slope ten).1 : ℚ) * 2 ^ 25 < (2 ^ 27 - 1) * (slope ten).2 := by
    have cast : (((slope ten).1 * 2 ^ 25 : Nat) : ℚ) < ((2 ^ 27 - 1) * (slope ten).2 : Nat) := by
      exact_mod_cast settles.gentle
    push_cast at cast
    linarith
  have ratio : (2 : ℚ) * 10 ^ ten / 2 ^ powerBelow ten < (1 - 1 / 2 ^ 27) * 4 := by
    rw [← slope_ratio, div_lt_iff₀ positive]
    linarith
  have less : (2 : ℚ) ^ exponent < 2 ^ (powerBelow ten + 1) := by
    rw [div_lt_iff₀ (by positivity)] at ratio
    rw [zpow_add_one₀ (by norm_num)]
    linarith
  have := (zpow_lt_zpow_iff_right₀ (by norm_num : (1 : ℚ) < 2)).mp less
  omega

/-- A multiple of a power of ten is a product of its slope, at the place of the ties. -/
theorem multiple_eq (digits : Nat) {ten exponent : Int} (finer : exponent ≤ powerBelow ten) :
    (digits * 10 ^ ten : ℚ) =
      (digits * 2 ^ (powerBelow ten - exponent).toNat : Nat) * (slope ten).1 / (slope ten).2 *
        2 ^ (exponent - 1) := by
  have power : (2 : ℚ) ^ powerBelow ten =
      2 ^ (powerBelow ten - exponent).toNat * (2 ^ (exponent - 1) * 2) := by
    rw [← zpow_natCast, ← zpow_add_one₀ (by norm_num), ← zpow_add₀ (by norm_num)]
    congr 1
    omega
  rw [mul_div_assoc, slope_ratio, power]
  push_cast
  field_simp

/-- To be near a natural at the place of the ties is a matter of integers. -/
theorem near_iff (ten exponent : Int) (n m : Nat) :
    |(n * (slope ten).1 / (slope ten).2 * 2 ^ (exponent - 1) - m * 2 ^ (exponent - 1) : ℚ)| <
        2 ^ (exponent - 28) ↔
      |(n * (slope ten).1 - m * (slope ten).2 : Int)| * 2 ^ 27 < (slope ten).2 := by
  have positive : (0 : ℚ) < (slope ten).2 := by exact_mod_cast (slope_pos ten).2
  have tie : (0 : ℚ) < 2 ^ (exponent - 1) := by positivity
  have apart : (n * (slope ten).1 / (slope ten).2 * 2 ^ (exponent - 1) -
      m * 2 ^ (exponent - 1) : ℚ) =
        (n * (slope ten).1 - m * (slope ten).2) / (slope ten).2 * 2 ^ (exponent - 1) := by
    field_simp
  have place : (2 : ℚ) ^ (exponent - 28) = 2 ^ (exponent - 1) / 2 ^ 27 := by
    rw [← zpow_natCast, ← zpow_sub₀ (by norm_num)]
    congr 1
    omega
  rw [apart, place, abs_mul, abs_div, abs_of_pos positive, abs_of_pos tie,
    lt_div_iff₀ (by norm_num), mul_right_comm, mul_lt_iff_lt_one_left tie, div_mul_eq_mul_div,
    div_lt_one positive, ← Int.cast_lt (R := ℚ)]
  push_cast
  rfl

theorem le_reach {ten : Int} {n m : Nat} (small : m < 2 ^ 25)
    (near : |(n * (slope ten).1 - m * (slope ten).2 : Int)| * 2 ^ 27 < (slope ten).2) :
    n ≤ reach ten := by
  have above := (abs_lt.mp (lt_of_le_of_lt (le_mul_of_one_le_right (abs_nonneg _)
    (by norm_num : (1 : Int) ≤ 2 ^ 27)) near)).2
  have next : (m + 1) * (slope ten).2 ≤ 2 ^ 25 * (slope ten).2 := Nat.mul_le_mul_right _ small
  rw [reach, Nat.le_div_iff_mul_le (slope_pos ten).1]
  zify at next ⊢
  linarith

/-- A multiple of a power of ten near a tie is the tie, but for two. -/
theorem tie_or_exception {ten exponent : Int} {digits odd : Nat} (low : -44 ≤ ten)
    (high : ten ≤ 38) (some : 0 < digits) (isOdd : odd % 2 = 1) (small : odd < 2 ^ 25)
    (coarse : (1 - 1 / 2 ^ 27 : ℚ) * 2 ^ exponent < 10 ^ ten)
    (near : |(digits * 10 ^ ten - odd * 2 ^ (exponent - 1) : ℚ)| < 2 ^ (exponent - 28)) :
    (digits * 10 ^ ten : ℚ) = odd * 2 ^ (exponent - 1) ∨
      ten = -32 ∧ exponent = -107 ∧ digits = 7038531 ∧ odd = 22841339 ∨
      ten = 14 ∧ exponent = 46 ∧ digits = 4747909 ∧ odd = 13494369 := by
  have settles := settles_fraction low high
  have finer := settles.finer coarse
  have multiple := multiple_eq digits finer
  obtain ⟨shift, shifted⟩ : ∃ shift, shift = (powerBelow ten - exponent).toNat := ⟨_, rfl⟩
  rw [← shifted] at multiple
  have nearby := (near_iff ten exponent (digits * 2 ^ shift) odd).mp (multiple ▸ near)
  rcases settles.exact_or_exception (Nat.mul_pos some (Nat.pow_pos (by decide))) isOdd
    (le_reach small nearby) nearby with exact' | ⟨exception, oddBelow, whole, rfl⟩
  · left
    have equal : ((digits * 2 ^ shift : Nat) : ℚ) * (slope ten).1 = odd * (slope ten).2 := by
      exact_mod_cast exact'
    have positive : ((slope ten).2 : ℚ) ≠ 0 := by exact_mod_cast (slope_pos ten).2.ne'
    rw [multiple, equal, mul_div_cancel_right₀ _ positive]
  · right
    -- The denominator is odd, so the power of two is the place of the numbers.
    have unshifted : shift = 0 := by
      by_contra more
      obtain ⟨less, rfl⟩ := Nat.exists_eq_succ_of_ne_zero more
      rw [Nat.pow_succ, ← Nat.mul_assoc] at whole
      omega
    subst unshifted
    rw [Nat.pow_zero, Nat.mul_one] at whole
    subst whole
    have place : exponent = powerBelow ten := by omega
    simp only [exceptions, List.mem_cons, List.not_mem_nil, or_false] at exception
    rcases exception with rfl | rfl
    · exact .inl ⟨rfl, place, rfl, rfl⟩
    · exact .inr ⟨rfl, place, rfl, rfl⟩

end SourceIndex.NearTies
