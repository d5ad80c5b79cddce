import Mathlib.Algebra.Order.Field.Power
import Mathlib.Tactic.FieldSimp
import Mathlib.Tactic.Linarith
import Mathlib.Tactic.Positivity
import Mathlib.Tactic.Ring
import SourceIndex.Number.Floating

set_option autoImplicit false

namespace SourceIndex

/-- The rational that a mantissa and an exponent stand for. -/
def amount (mantissa : Nat) (exponent : Int) : ℚ := mantissa * 2 ^ exponent

theorem abs_mul_sub (factor q : ℚ) {unit : ℚ} (positive : 0 < unit) :
    |factor * unit - q| = |factor - q / unit| * unit := by
  nth_rewrite 3 [← abs_of_pos positive]
  rw [← abs_mul, sub_mul, div_mul_cancel₀ _ positive.ne']

/-- A natural is nearest to a rational if it lies within one half of it, and is even on a tie. -/
structure IsNearest (n : Nat) (q : ℚ) : Prop where
  close : |(n : ℚ) - q| ≤ 1 / 2
  even : |(n : ℚ) - q| = 1 / 2 → n % 2 = 0

theorem IsNearest.of_lt {n : Nat} {q : ℚ} (close : |(n : ℚ) - q| < 1 / 2) : IsNearest n q :=
  ⟨close.le, fun tie => absurd tie close.ne⟩

/-- Only one natural is nearest: of two at a distance of one half, one is odd. -/
theorem IsNearest.unique {n m : Nat} {q : ℚ} (first : IsNearest n q) (second : IsNearest m q) :
    n = m := by
  have low := abs_le.mp first.close
  have high := abs_le.mp second.close
  have apart (a b : Nat) (lower : (a : ℚ) - q ≥ -(1 / 2)) (upper : (b : ℚ) - q ≤ 1 / 2) :
      b ≤ a + 1 := by
    have gap : (b : ℚ) ≤ a + 1 := by linarith
    exact_mod_cast gap
  have tie (a b : Nat) (lower : (a : ℚ) - q ≥ -(1 / 2)) (upper : (b : ℚ) - q ≤ 1 / 2)
      (next : b = a + 1) : (a : ℚ) - q = -(1 / 2) ∧ (b : ℚ) - q = 1 / 2 := by
    have gap : (b : ℚ) = a + 1 := by exact_mod_cast next
    constructor <;> linarith
  have below := apart n m low.1 high.2
  have above := apart m n high.1 low.2
  by_contra other
  rcases Nat.lt_or_gt_of_ne other with less | more
  · obtain ⟨left, right⟩ := tie n m low.1 high.2 (by omega)
    have evenLeft := first.even (by rw [left]; norm_num)
    have evenRight := second.even (by rw [right]; norm_num)
    omega
  · obtain ⟨left, right⟩ := tie m n high.1 low.2 (by omega)
    have evenLeft := second.even (by rw [left]; norm_num)
    have evenRight := first.even (by rw [right]; norm_num)
    omega

theorem isNearest_iff (n above below : Nat) (positive : 0 < below) :
    IsNearest n (above / below) ↔
      2 * above ≤ 2 * (n * below) + below ∧ 2 * (n * below) ≤ 2 * above + below ∧
        (2 * above = 2 * (n * below) + below ∨ 2 * (n * below) = 2 * above + below →
          n % 2 = 0) := by
  have unit : (0 : ℚ) < 2 * below := by exact_mod_cast Nat.mul_pos (by decide) positive
  have whole : (n : ℚ) - above / below = (2 * (n * below) - 2 * above) / (2 * below) := by
    field_simp
  have half : (1 : ℚ) / 2 = below / (2 * below) := by field_simp
  have close : |(n : ℚ) - above / below| ≤ 1 / 2 ↔
      2 * above ≤ 2 * (n * below) + below ∧ 2 * (n * below) ≤ 2 * above + below := by
    rw [whole, half, abs_div, abs_of_pos unit, div_le_div_iff_of_pos_right unit, abs_le,
      neg_le_sub_iff_le_add, sub_le_iff_le_add', ← Nat.cast_le (α := ℚ), ← Nat.cast_le (α := ℚ)]
    push_cast
    rfl
  have tie : |(n : ℚ) - above / below| = 1 / 2 ↔
      2 * above = 2 * (n * below) + below ∨ 2 * (n * below) = 2 * above + below := by
    rw [whole, half, abs_div, abs_of_pos unit, div_left_inj' unit.ne', abs_eq (by positivity),
      or_comm, sub_eq_iff_eq_add, sub_eq_iff_eq_add', ← Nat.cast_inj (R := ℚ),
      ← Nat.cast_inj (R := ℚ)]
    push_cast
    constructor <;> rintro (left | right)
    · exact .inl (by linarith)
    · exact .inr (by linarith)
    · exact .inl (by linarith)
    · exact .inr (by linarith)
  constructor
  · exact fun near => ⟨(close.mp near.close).1, (close.mp near.close).2, fun at' =>
      near.even (tie.mpr at')⟩
  · exact fun near => ⟨close.mpr ⟨near.1, near.2.1⟩, fun at' => near.2.2 (tie.mp at')⟩

theorem isNearest_nearest (above below : Nat) (positive : 0 < below) :
    IsNearest (nearest above below) (above / below) := by
  have small := Nat.mod_lt above positive
  have split := Nat.div_add_mod above below
  rw [isNearest_iff _ _ _ positive]
  simp only [nearest]
  generalize above / below = whole at split ⊢
  generalize above % below = rest at small split ⊢
  rw [← split]
  split
  · rw [Nat.add_mul, Nat.one_mul, Nat.mul_comm whole]
    omega
  · rw [Nat.mul_comm whole]
    omega

theorem zpow_eq_div_pow {base : ℚ} (some : base ≠ 0) (exponent : Int) :
    base ^ exponent = base ^ exponent.toNat / base ^ (-exponent).toNat := by
  rw [← zpow_natCast, ← zpow_natCast, ← zpow_sub₀ some]
  congr 1
  omega

theorem scaleDown_pos (above below : Nat) (exponent : Int) (positive : 0 < below) :
    0 < (scaleDown above below exponent).2 :=
  Nat.mul_pos positive (Nat.pow_pos (by decide))

theorem scaleDown_ratio (above below : Nat) (exponent : Int) (positive : 0 < below) :
    ((scaleDown above below exponent).1 : ℚ) / (scaleDown above below exponent).2 =
      above / below / 2 ^ exponent := by
  have unit : (below : ℚ) ≠ 0 := by exact_mod_cast positive.ne'
  rw [zpow_eq_div_pow (by norm_num) exponent]
  simp only [scaleDown, Nat.pow_eq]
  push_cast
  field_simp

namespace FloatFormat

variable (format : FloatFormat)

/-- The last bit of a positive rational in a format lies at a place: with the bits of a mantissa the
rational stays below the next power of two, and it uses all of them unless the place is the
least. -/
structure HasPlace (q : ℚ) (place : Int) : Prop where
  least : format.least ≤ place
  fits : q < 2 ^ (format.precision + place)
  fills : place = format.least ∨ (2 : ℚ) ^ (format.precision + place - 1) ≤ q

theorem HasPlace.unique {format : FloatFormat} {q : ℚ} {first second : Int}
    (one : format.HasPlace q first) (other : format.HasPlace q second) : first = second := by
  have atMost (a b : Int) (small : format.HasPlace q a) (large : format.HasPlace q b) : b ≤ a := by
    rcases large.fills with least | fills
    · exact least ▸ small.least
    · have powers := (zpow_lt_zpow_iff_right₀ (by norm_num : (1 : ℚ) < 2)).mp
        (lt_of_le_of_lt fills small.fits)
      omega
  exact Int.le_antisymm (atMost second first other one) (atMost first second one other)

/-- Whether a rational uses all the bits of a mantissa, seen from the place of the last one. -/
theorem fills_iff (bits : 0 < format.precision) (q : ℚ) (place : Int) :
    (2 : ℚ) ^ (format.precision + place - 1) ≤ q ↔ 2 ^ (format.precision - 1) ≤ q / 2 ^ place := by
  rw [le_div_iff₀ (by positivity), ← zpow_natCast, ← zpow_add₀ (by norm_num),
    show ((format.precision - 1 : Nat) : Int) + place = format.precision + place - 1 by omega]

/-- A fraction lies between powers of two that the bits of its parts tell. -/
theorem ratio_bounds (above below : Nat) (some : 0 < above) (positive : 0 < below) :
    (2 : ℚ) ^ ((Nat.log2 above : Int) - Nat.log2 below - 1) < above / below ∧
      (above : ℚ) / below < 2 ^ ((Nat.log2 above : Int) - Nat.log2 below + 1) := by
  have bits (n : Nat) (positive : 0 < n) :
      (2 : ℚ) ^ (Nat.log2 n : Int) ≤ n ∧ (n : ℚ) < 2 ^ ((Nat.log2 n : Int) + 1) := by
    constructor
    · rw [zpow_natCast]
      exact_mod_cast Nat.log2_self_le positive.ne'
    · have bound := Nat.lt_log2_self (n := n)
      rw [← Nat.cast_succ, zpow_natCast]
      exact_mod_cast bound
  have unit : (0 : ℚ) < below := by exact_mod_cast positive
  obtain ⟨low, high⟩ := bits above some
  obtain ⟨lowBelow, highBelow⟩ := bits below positive
  have two : (2 : ℚ) ≠ 0 := by norm_num
  constructor
  · rw [lt_div_iff₀ unit]
    calc (2 : ℚ) ^ ((Nat.log2 above : Int) - Nat.log2 below - 1) * below
        < 2 ^ ((Nat.log2 above : Int) - Nat.log2 below - 1) * 2 ^ ((Nat.log2 below : Int) + 1) :=
          mul_lt_mul_of_pos_left highBelow (by positivity)
      _ = 2 ^ (Nat.log2 above : Int) := by
          rw [← zpow_add₀ two]
          congr 1
          omega
      _ ≤ above := low
  · rw [div_lt_iff₀ unit]
    calc (above : ℚ) < 2 ^ ((Nat.log2 above : Int) + 1) := high
      _ = 2 ^ ((Nat.log2 above : Int) - Nat.log2 below + 1) * 2 ^ (Nat.log2 below : Int) := by
          rw [← zpow_add₀ two]
          congr 1
          omega
      _ ≤ 2 ^ ((Nat.log2 above : Int) - Nat.log2 below + 1) * below :=
          mul_le_mul_of_nonneg_left lowBelow (by positivity)

/-- The exponent that the bits of the parts of a fraction tell, or one less. -/
def guessOf (above below : Nat) : Int := Nat.log2 above - Nat.log2 below - format.precision

theorem placeOf_eq (above below : Nat) : format.placeOf above below =
    max format.least
      (if (scaleDown above below (format.guessOf above below)).1 <
          (scaleDown above below (format.guessOf above below)).2 * Nat.pow 2 format.precision
        then format.guessOf above below else format.guessOf above below + 1) := rfl

theorem scaleDown_lt_iff (above below : Nat) (positive : 0 < below) (place : Int) :
    (scaleDown above below place).1 < (scaleDown above below place).2 * Nat.pow 2 format.precision ↔
      (above : ℚ) / below < 2 ^ (format.precision + place) := by
  have bottom := scaleDown_pos above below place positive
  have unit : (0 : ℚ) < (scaleDown above below place).2 := by exact_mod_cast bottom
  rw [zpow_add₀ (by norm_num), ← div_lt_iff₀ (by positivity),
    ← scaleDown_ratio above below place positive, div_lt_iff₀ unit, zpow_natCast,
    ← Nat.cast_lt (α := ℚ), Nat.pow_eq, mul_comm]
  push_cast
  rfl

theorem hasPlace_placeOf (above below : Nat) (some : 0 < above) (positive : 0 < below) :
    format.HasPlace (above / below) (format.placeOf above below) := by
  obtain ⟨low, high⟩ := ratio_bounds above below some positive
  have monotone {a b : Int} (le : a ≤ b) : (2 : ℚ) ^ a ≤ 2 ^ b :=
    zpow_le_zpow_right₀ (by norm_num) le
  rw [placeOf_eq]
  generalize guessed : format.guessOf above below = guess
  rw [guessOf] at guessed
  simp only [format.scaleDown_lt_iff above below positive]
  generalize found : (if (above : ℚ) / below < 2 ^ (format.precision + guess) then guess
    else guess + 1) = place
  obtain ⟨small, large⟩ : (above : ℚ) / below < 2 ^ (format.precision + place) ∧
      (2 : ℚ) ^ (format.precision + place - 1) ≤ above / below := by
    split at found <;> subst found
    · rename_i less
      exact ⟨less, (monotone (by omega)).trans low.le⟩
    · rename_i more
      refine ⟨lt_of_lt_of_le high (monotone (by omega)), ?_⟩
      rw [show (format.precision : Int) + (guess + 1) - 1 = format.precision + guess by ring]
      exact not_lt.mp more
  have most := le_max_right format.least place
  refine ⟨le_max_left _ _, lt_of_lt_of_le small (monotone (by omega)), ?_⟩
  rcases le_total place format.least with under | past
  · exact .inl (max_eq_left under)
  · rw [max_eq_right past]
    exact .inr large

/-- Rounding is known from the place of the last bit and the natural nearest to the fraction over
it. -/
theorem round_of_isNearest (negative : Bool) {above below n : Nat} {place : Int} (some : 0 < above)
    (positive : 0 < below) (placed : format.HasPlace (above / below) place)
    (near : IsNearest n (above / below / 2 ^ place)) :
    format.round negative above below =
      if n = 0 then .zero negative
      else if n = 2 ^ format.precision then
        if place + 1 > format.greatest then .infinite negative
        else .finite negative (n / 2) (place + 1)
      else if place > format.greatest then .infinite negative
      else .finite negative n place := by
  have here : format.placeOf above below = place :=
    (format.hasPlace_placeOf above below some positive).unique placed
  have nearest : nearest (scaleDown above below place).1 (scaleDown above below place).2 = n := by
    have found := isNearest_nearest (scaleDown above below place).1 _
      (scaleDown_pos above below place positive)
    rw [scaleDown_ratio above below place positive] at found
    exact found.unique near
  have other : (above == 0) = false := beq_eq_false_iff_ne.mpr some.ne'
  simp only [round, other, Bool.false_eq_true, ↓reduceIte, here, nearest, beq_iff_eq, Nat.pow_eq]
  split
  · rfl
  · split <;> rfl

/-- A number of the format other than zero, in the form that rounding gives it. -/
structure Canonical (mantissa : Nat) (exponent : Int) : Prop where
  some : 0 < mantissa
  fits : mantissa < 2 ^ format.precision
  least : format.least ≤ exponent
  greatest : exponent ≤ format.greatest
  fills : exponent = format.least ∨ 2 ^ (format.precision - 1) ≤ mantissa

/-- A fraction is rounded to the number that it is nearest to. Below a power of two the next number
is nearer than the place of the last bit tells, so there the fraction may not lie below it. -/
theorem round_of_near (bits : 0 < format.precision) (negative : Bool)
    {above below mantissa : Nat} {exponent : Int} (some : 0 < above) (positive : 0 < below)
    (canonical : format.Canonical mantissa exponent)
    (near : IsNearest mantissa (above / below / 2 ^ exponent))
    (side : exponent = format.least ∨ 2 ^ (format.precision - 1) < mantissa ∨
      amount mantissa exponent ≤ above / below) :
    format.round negative above below = .finite negative mantissa exponent := by
  have unit : (0 : ℚ) < 2 ^ exponent := by positivity
  obtain ⟨low, high⟩ := abs_le.mp near.close
  have placed : format.HasPlace (above / below) exponent := by
    refine ⟨canonical.least, ?_, ?_⟩
    · have fits : (mantissa : ℚ) + 1 ≤ 2 ^ format.precision := by exact_mod_cast canonical.fits
      rw [zpow_add₀ (by norm_num), ← div_lt_iff₀ unit, zpow_natCast]
      linarith
    · rw [format.fills_iff bits]
      rcases canonical.fills with least | fills
      · exact .inl least
      · have enough : (2 : ℚ) ^ (format.precision - 1) ≤ mantissa := by exact_mod_cast fills
        rcases side with least | more | above'
        · exact .inl least
        · have next : (2 : ℚ) ^ (format.precision - 1) + 1 ≤ mantissa := by exact_mod_cast more
          exact .inr (by linarith)
        · rw [amount, ← le_div_iff₀ unit] at above'
          exact .inr (enough.trans above')
  rw [format.round_of_isNearest negative some positive placed near, if_neg canonical.some.ne',
    if_neg canonical.fits.ne, if_neg (not_lt.mpr canonical.greatest)]

theorem exists_isNearest {above below : Nat} (some : 0 < above) (positive : 0 < below) :
    ∃ place n, format.HasPlace (above / below) place ∧
      IsNearest n (above / below / 2 ^ place) := by
  have near := isNearest_nearest (scaleDown above below (format.placeOf above below)).1 _
    (scaleDown_pos above below (format.placeOf above below) positive)
  rw [scaleDown_ratio above below _ positive] at near
  exact ⟨_, _, format.hasPlace_placeOf above below some positive, near⟩

/-- What a fraction of ordinary size is rounded to: a natural at the place of the last bit, the one
nearest to the fraction. -/
theorem round_ordinary (bits : 0 < format.precision) (negative : Bool) {above below : Nat}
    (some : 0 < above) (positive : 0 < below)
    (low : (2 : ℚ) ^ (format.precision + format.least - 1) ≤ above / below)
    (high : (above : ℚ) / below < 2 ^ (format.precision + format.greatest - 1)) :
    ∃ mantissa exponent place n,
      format.round negative above below = .finite negative mantissa exponent ∧
      0 < mantissa ∧ amount mantissa exponent = amount n place ∧
      IsNearest n (above / below / 2 ^ place) ∧
      (2 : ℚ) ^ (format.precision + place - 1) ≤ above / below := by
  obtain ⟨place, n, placed, near⟩ := format.exists_isNearest some positive
  have rounded := format.round_of_isNearest negative some positive placed near
  have fills : (2 : ℚ) ^ (format.precision + place - 1) ≤ above / below := by
    rcases placed.fills with rfl | fills
    · exact low
    · exact fills
  have unit : (0 : ℚ) < 2 ^ place := by positivity
  have full := (format.fills_iff bits _ _).mp fills
  have one : (1 : ℚ) ≤ 2 ^ (format.precision - 1) := one_le_pow₀ (by norm_num)
  have positiveN : 0 < n := by
    have close := (abs_le.mp near.close).1
    have bound : (0 : ℚ) < n := by linarith
    exact_mod_cast bound
  have room : place < format.greatest := by
    have powers := (zpow_lt_zpow_iff_right₀ (by norm_num : (1 : ℚ) < 2)).mp
      (lt_of_le_of_lt fills high)
    omega
  rw [if_neg positiveN.ne', if_neg (show ¬ place + 1 > format.greatest by omega),
    if_neg (show ¬ place > format.greatest by omega)] at rounded
  by_cases carry : n = 2 ^ format.precision
  · rw [if_pos carry] at rounded
    have half : n / 2 * 2 = n := by
      rw [carry, ← Nat.sub_add_cancel bits, pow_succ, Nat.mul_div_cancel _ (by decide)]
    refine ⟨_, _, place, n, rounded, by omega, ?_, near, fills⟩
    rw [amount, amount, zpow_add_one₀ (by norm_num)]
    nth_rewrite 2 [← half]
    push_cast
    ring
  · rw [if_neg carry] at rounded
    exact ⟨_, _, place, n, rounded, positiveN, rfl, near, fills⟩

/-- A fraction of ordinary size is rounded to a number that differs from it by at most half a place
of its last bit. -/
theorem round_error (bits : 0 < format.precision) (negative : Bool) {above below : Nat}
    (some : 0 < above) (positive : 0 < below)
    (low : (2 : ℚ) ^ (format.precision + format.least - 1) ≤ above / below)
    (high : (above : ℚ) / below < 2 ^ (format.precision + format.greatest - 1)) :
    ∃ mantissa exponent, format.round negative above below = .finite negative mantissa exponent ∧
      0 < mantissa ∧
      |amount mantissa exponent - above / below| ≤ above / below / 2 ^ format.precision := by
  obtain ⟨mantissa, exponent, place, n, rounded, given, same, near, fills⟩ :=
    format.round_ordinary bits negative some positive low high
  refine ⟨mantissa, exponent, rounded, given, ?_⟩
  have unit : (0 : ℚ) < 2 ^ place := by positivity
  rw [same, amount, abs_mul_sub _ _ unit, le_div_iff₀ (by positivity)]
  calc |(n : ℚ) - above / below / 2 ^ place| * 2 ^ place * 2 ^ format.precision
      ≤ 1 / 2 * 2 ^ place * 2 ^ format.precision := by
        have close := near.close
        gcongr
    _ = 2 ^ (format.precision + place - 1) := by
        rw [zpow_sub_one₀ (by norm_num), zpow_add₀ (by norm_num), zpow_natCast]
        ring
    _ ≤ above / below := fills

/-- A fraction of ordinary size whose bits fit a mantissa is not changed by rounding. -/
theorem round_exact (bits : 0 < format.precision) (negative : Bool) {above below : Nat}
    (some : 0 < above) (positive : 0 < below)
    (low : (2 : ℚ) ^ (format.precision + format.least - 1) ≤ above / below)
    (high : (above : ℚ) / below < 2 ^ (format.precision + format.greatest - 1))
    {whole : Nat} {place : Int} (fits : whole < 2 ^ format.precision)
    (exact' : (above : ℚ) / below = amount whole place) :
    ∃ mantissa exponent, format.round negative above below = .finite negative mantissa exponent ∧
      0 < mantissa ∧ amount mantissa exponent = above / below := by
  obtain ⟨mantissa, exponent, last, n, rounded, given, same, near, fills⟩ :=
    format.round_ordinary bits negative some positive low high
  refine ⟨mantissa, exponent, rounded, given, ?_⟩
  have wide : last ≤ place := by
    have power : (2 : ℚ) ^ (format.precision + last - 1) < 2 ^ (format.precision + place) := by
      refine lt_of_le_of_lt fills ?_
      rw [exact', amount, zpow_add₀ (by norm_num), zpow_natCast]
      have small : (whole : ℚ) < 2 ^ format.precision := by exact_mod_cast fits
      gcongr
    have := (zpow_lt_zpow_iff_right₀ (by norm_num : (1 : ℚ) < 2)).mp power
    omega
  -- Over the place of the last bit the fraction is a natural, and so the one nearest to it.
  have integral : (above : ℚ) / below / 2 ^ last = (whole * 2 ^ (place - last).toNat : Nat) := by
    have power : (2 : ℚ) ^ place = 2 ^ last * 2 ^ (place - last).toNat := by
      rw [← zpow_natCast, ← zpow_add₀ (by norm_num)]
      congr 1
      omega
    rw [exact', amount, power]
    push_cast
    field_simp
  have self : IsNearest (whole * 2 ^ (place - last).toNat) (above / below / 2 ^ last) :=
    .of_lt (by rw [integral, sub_self, abs_zero]; norm_num)
  rw [same, near.unique self, amount, ← integral]
  field_simp

/-- The numbers of a format, in the form that rounding gives them. -/
inductive Within : Floating → Prop
  | infinite (negative : Bool) : Within (.infinite negative)
  | zero (negative : Bool) : Within (.zero negative)
  | finite (negative : Bool) (mantissa : Nat) (exponent : Int)
      (canonical : format.Canonical mantissa exponent) :
      Within (.finite negative mantissa exponent)

theorem round_within (bits : 0 < format.precision) (negative : Bool) (above below : Nat)
    (positive : 0 < below) : format.Within (format.round negative above below) := by
  rcases Nat.eq_zero_or_pos above with rfl | some
  · exact .zero negative
  obtain ⟨place, n, placed, near⟩ := format.exists_isNearest some positive
  rw [format.round_of_isNearest negative some positive placed near]
  have unit : (0 : ℚ) < 2 ^ place := by positivity
  obtain ⟨lower, upper⟩ := abs_le.mp near.close
  by_cases none : n = 0
  · rw [if_pos none]
    exact .zero negative
  rw [if_neg none]
  by_cases carry : n = 2 ^ format.precision
  · rw [if_pos carry]
    by_cases past : place + 1 > format.greatest
    · rw [if_pos past]
      exact .infinite negative
    · rw [if_neg past]
      have half : n / 2 = 2 ^ (format.precision - 1) := by
        rw [carry, ← Nat.sub_add_cancel bits, pow_succ, Nat.mul_div_cancel _ (by decide),
          Nat.add_sub_cancel]
      have more : 2 ^ (format.precision - 1) < 2 ^ format.precision :=
        Nat.pow_lt_pow_right (by decide) (by omega)
      have least := placed.least
      refine .finite _ _ _ ⟨?_, ?_, by omega, by omega, .inr half.ge⟩
      · exact half ▸ Nat.pow_pos (by decide)
      · exact half ▸ more
  · rw [if_neg carry]
    by_cases past : place > format.greatest
    · rw [if_pos past]
      exact .infinite negative
    · rw [if_neg past]
      refine .finite _ _ _ ⟨Nat.pos_of_ne_zero none, ?_, placed.least, by omega, ?_⟩
      · have fits := placed.fits
        rw [zpow_add₀ (by norm_num), ← div_lt_iff₀ unit, zpow_natCast] at fits
        have atMost : (n : ℚ) < 2 ^ format.precision + 1 := by linarith
        have bound : n < 2 ^ format.precision + 1 := by exact_mod_cast atMost
        omega
      · refine placed.fills.imp_right fun fills => ?_
        have full := (format.fills_iff bits _ _).mp fills
        have atLeast : (2 : ℚ) ^ (format.precision - 1) < n + 1 := by linarith
        have bound : 2 ^ (format.precision - 1) < n + 1 := by exact_mod_cast atLeast
        omega

/-- A number of another format is converted to one of this format. -/
theorem convert_within (bits : 0 < format.precision) (number : Floating) :
    format.Within (format.convert number) := by
  cases number with
  | infinite negative => exact .infinite negative
  | finite negative mantissa exponent =>
      exact format.round_within bits negative _ _ (Nat.pow_pos (by decide))

/-- The sign of what is rounded is kept, and does not matter otherwise. -/
theorem negate_round (negative : Bool) (above below : Nat) :
    (format.round negative above below).negate = format.round (!negative) above below := by
  simp only [round]
  repeat' split
  all_goals rfl

theorem convert_negate (number : Floating) :
    format.convert number.negate = (format.convert number).negate := by
  cases number with
  | infinite negative => rfl
  | finite negative mantissa exponent => exact (format.negate_round _ _ _).symm

end FloatFormat

end SourceIndex
