import SourceIndex.Number.Shortest
import SourceIndex.Proofs.Number.Rounding

set_option autoImplicit false

namespace SourceIndex

/-- The rational that a decimal stands for. -/
def Decimal.value (decimal : Decimal) : ℚ := decimal.digits * 10 ^ decimal.exponent

namespace FloatFormat

theorem Interval.holds_iff (interval : Interval) (place : Int) (count : Nat) :
    interval.holds place count = true ↔
      interval.low * 10 ^ (-place).toNat ≤ count * 10 ^ place.toNat * interval.unit ∧
        count * 10 ^ place.toNat * interval.unit ≤ interval.high * 10 ^ (-place).toNat ∧
        (interval.low * 10 ^ (-place).toNat = count * 10 ^ place.toNat * interval.unit ∨
          count * 10 ^ place.toNat * interval.unit = interval.high * 10 ^ (-place).toNat →
            interval.closed = true) := by
  simp only [holds, Nat.pow_eq]
  split <;> rename_i closed
  · simp only [Bool.and_eq_true, decide_eq_true_eq, closed, implies_true, and_true]
  · simp only [Bool.and_eq_true, decide_eq_true_eq, closed, Bool.false_eq_true,
      imp_false]
    omega

theorem Interval.gridPoint?_of_holds {interval : Interval} {place : Int} {count : Nat}
    (first : count = nearest (interval.middle * 10 ^ (-place).toNat)
      (10 ^ place.toNat * interval.unit))
    (inside : interval.holds place count = true) : interval.gridPoint? place = some count := by
  subst first
  simp only [gridPoint?, nearest, Nat.pow_eq] at inside ⊢
  generalize interval.middle * 10 ^ (-place).toNat = middle at inside ⊢
  generalize 10 ^ place.toNat * interval.unit = step at inside ⊢
  by_cases upFirst : 2 * (middle % step) > step ∨
    2 * (middle % step) = step ∧ middle / step % 2 = 1
  · rw [if_pos upFirst] at inside ⊢
    rw [if_pos (by simpa using upFirst)]
    exact List.find?_cons_of_pos inside
  · rw [if_neg upFirst] at inside ⊢
    rw [if_neg (by simpa using upFirst)]
    exact List.find?_cons_of_pos inside

/-- Whether the next number below a number lies as far from it as the next one above. -/
def Spaced (format : FloatFormat) (mantissa : Nat) (exponent : Int) : Prop :=
  mantissa = 2 ^ (format.precision - 1) → exponent ≤ format.least

section

variable {format : FloatFormat} {mantissa : Nat} {exponent : Int}
  (given : 0 < mantissa) (spaced : format.Spaced mantissa exponent)

section

include spaced

theorem interval_of_spaced :
    format.interval mantissa exponent =
      { low := (4 * mantissa - 2) * 2 ^ exponent.toNat
        middle := 4 * mantissa * 2 ^ exponent.toNat
        high := (4 * mantissa + 2) * 2 ^ exponent.toNat
        unit := 4 * 2 ^ (-exponent).toNat
        closed := mantissa % 2 == 0 } := by
  have wide : (mantissa == Nat.pow 2 (format.precision - 1) &&
      decide (format.least < exponent)) = false := by
    by_cases power : mantissa = 2 ^ (format.precision - 1)
    · simp only [decide_eq_false (not_lt.mpr (spaced power)), Bool.and_false]
    · simp only [Nat.pow_eq, beq_eq_false_iff_ne.mpr power, Bool.false_and]
  simp only [interval, wide, Bool.false_eq_true, ↓reduceIte]
  rfl

end

include given spaced

/-- A point of a grid lies in the interval of a number if the number is nearest to it. -/
theorem holds_iff_isNearest (place : Int) (count : Nat) :
    (format.interval mantissa exponent).holds place count = true ↔
      IsNearest mantissa (count * 10 ^ place / 2 ^ exponent) := by
  have fraction : (count * 10 ^ place / 2 ^ exponent : ℚ) =
      (count * 10 ^ place.toNat * 2 ^ (-exponent).toNat : Nat) /
        (10 ^ (-place).toNat * 2 ^ exponent.toNat : Nat) := by
    rw [zpow_eq_div_pow (by norm_num) place, zpow_eq_div_pow (by norm_num) exponent]
    push_cast
    field_simp
  rw [Interval.holds_iff, interval_of_spaced spaced, fraction, isNearest_iff _ _ _ (by positivity),
    beq_iff_eq]
  have value : count * 10 ^ place.toNat * (4 * 2 ^ (-exponent).toNat) =
      4 * (count * 10 ^ place.toNat * 2 ^ (-exponent).toNat) := by ring
  have low : (4 * mantissa - 2) * 2 ^ exponent.toNat * 10 ^ (-place).toNat =
      4 * (mantissa * (10 ^ (-place).toNat * 2 ^ exponent.toNat)) -
        2 * (10 ^ (-place).toNat * 2 ^ exponent.toNat) := by
    rw [Nat.mul_assoc, Nat.sub_mul]
    ring_nf
  have high : (4 * mantissa + 2) * 2 ^ exponent.toNat * 10 ^ (-place).toNat =
      4 * (mantissa * (10 ^ (-place).toNat * 2 ^ exponent.toNat)) +
        2 * (10 ^ (-place).toNat * 2 ^ exponent.toNat) := by ring
  have most : 10 ^ (-place).toNat * 2 ^ exponent.toNat ≤
      mantissa * (10 ^ (-place).toNat * 2 ^ exponent.toNat) := Nat.le_mul_of_pos_left _ given
  rw [value, low, high]
  omega

theorem isNearest_of_gridPoint? {place : Int} {count : Nat}
    (found : (format.interval mantissa exponent).gridPoint? place = some count) :
    IsNearest mantissa (count * 10 ^ place / 2 ^ exponent) := by
  rw [← holds_iff_isNearest given spaced]
  exact List.find?_some (p := (format.interval mantissa exponent).holds place) found

/-- On a grid finer than the numbers the point nearest to the number is found. -/
theorem gridPoint?_of_fine {place : Int} (fine : (10 : ℚ) ^ place < 2 ^ exponent) :
    ∃ count, (format.interval mantissa exponent).gridPoint? place = some count ∧
      IsNearest count (amount mantissa exponent / 10 ^ place) := by
  obtain ⟨middle, isMiddle⟩ : ∃ middle, middle =
    (format.interval mantissa exponent).middle * 10 ^ (-place).toNat := ⟨_, rfl⟩
  obtain ⟨step, isStep⟩ : ∃ step, step =
    10 ^ place.toNat * (format.interval mantissa exponent).unit := ⟨_, rfl⟩
  have positive : 0 < step := by
    rw [isStep, interval_of_spaced spaced]
    positivity
  have fraction : (middle / step : ℚ) = amount mantissa exponent / 10 ^ place := by
    rw [isMiddle, isStep, interval_of_spaced spaced, amount, zpow_eq_div_pow (by norm_num) place,
      zpow_eq_div_pow (by norm_num) exponent]
    push_cast
    field_simp
  have near := isNearest_nearest middle step positive
  rw [fraction] at near
  have inside : (format.interval mantissa exponent).holds place (nearest middle step) = true := by
    rw [holds_iff_isNearest given spaced]
    refine .of_lt ?_
    have unit : (0 : ℚ) < 2 ^ exponent := by positivity
    have grid : (0 : ℚ) < 10 ^ place := by positivity
    refine lt_of_mul_lt_mul_right ?_ unit.le
    calc |(mantissa - nearest middle step * 10 ^ place / 2 ^ exponent : ℚ)| * 2 ^ exponent
        = |(nearest middle step - amount mantissa exponent / 10 ^ place : ℚ)| * 10 ^ place := by
          rw [← abs_mul_sub _ _ unit, ← abs_mul_sub _ _ grid, abs_sub_comm, amount]
      _ ≤ 1 / 2 * 10 ^ place := by
          have close := near.close
          gcongr
      _ < 1 / 2 * 2 ^ exponent := by gcongr
  exact ⟨_, Interval.gridPoint?_of_holds (by rw [isMiddle, isStep]) inside, near⟩

theorem exists_gridPoint? {place : Int} (fine : (10 : ℚ) ^ place < 2 ^ exponent) :
    ∃ count, (format.interval mantissa exponent).gridPoint? place = some count ∧ 0 < count := by
  obtain ⟨count, found, near⟩ := gridPoint?_of_fine given spaced fine
  refine ⟨count, found, Nat.pos_of_ne_zero ?_⟩
  rintro rfl
  have grid : (0 : ℚ) < 10 ^ place := by positivity
  have least : (1 : ℚ) ≤ mantissa := by exact_mod_cast given
  have more : 1 < amount mantissa exponent / 10 ^ place := by
    rw [one_lt_div grid]
    calc (10 : ℚ) ^ place < 2 ^ exponent := fine
      _ ≤ mantissa * 2 ^ exponent := le_mul_of_one_le_left (by positivity) least
  have close := (abs_le.mp near.close).1
  rw [Nat.cast_zero] at close
  linarith

end

/-- The search stops on the first grid with a point, at the latest on the first that is finer than
the numbers. -/
theorem search_stops {interval : Interval} {unit : ℚ}
    (found : ∀ place, (10 : ℚ) ^ place < unit →
      ∃ count, interval.gridPoint? place = some count ∧ 0 < count)
    {target : Int} (fine : (10 : ℚ) ^ target < unit) (fuel : Nat) (place : Int)
    (above : target ≤ place) (room : place - target < fuel) (coarse : unit ≤ 10 ^ (place + 1)) :
    ∃ digits last, search interval fuel place = ⟨digits, last⟩ ∧
      interval.gridPoint? last = some digits ∧ 0 < digits ∧ unit ≤ 10 ^ (last + 1) := by
  induction fuel generalizing place with
  | zero => omega
  | succ fuel ih =>
      -- Without a point the grid is not finer than the numbers, and so not the target.
      have onwards (none : ∀ count, interval.gridPoint? place = some count → count = 0) :
          ∃ digits last, search interval fuel (place - 1) = ⟨digits, last⟩ ∧
            interval.gridPoint? last = some digits ∧ 0 < digits ∧ unit ≤ 10 ^ (last + 1) := by
        have rough : ¬ (10 : ℚ) ^ place < unit := fun fine => by
          obtain ⟨count, point, some⟩ := found place fine
          exact some.ne' (none count point)
        have other : target ≠ place := fun same => rough (same ▸ fine)
        exact ih (place - 1) (by omega) (by omega)
          (by rw [sub_add_cancel]; exact not_lt.mp rough)
      rw [search]
      split
      · rename_i digits point
        split
        · rename_i zero
          rw [beq_iff_eq] at zero
          exact onwards fun count other => Option.some.inj (other.symm.trans point) ▸ zero
        · rename_i more
          rw [beq_iff_eq] at more
          exact ⟨digits, place, rfl, point, Nat.pos_of_ne_zero more, coarse⟩
      · rename_i point
        exact onwards fun count other => nomatch other.symm.trans point

/-- What a decimal of a number satisfies that the search finds. -/
structure IsShort (mantissa : Nat) (exponent : Int) (decimal : Decimal) : Prop where
  given : 0 < decimal.digits
  near : IsNearest mantissa (decimal.value / 2 ^ exponent)
  coarse : (2 : ℚ) ^ exponent ≤ 10 ^ (decimal.exponent + 1)
  closest : (10 : ℚ) ^ decimal.exponent < 2 ^ exponent →
    IsNearest decimal.digits (amount mantissa exponent / 10 ^ decimal.exponent)

theorem ten_lt_two_iff (ten two : Int) :
    (10 : ℚ) ^ ten < 2 ^ two ↔
      10 ^ ten.toNat * 2 ^ (-two).toNat < 2 ^ two.toNat * 10 ^ (-ten).toNat := by
  rw [zpow_eq_div_pow (by norm_num) ten, zpow_eq_div_pow (by norm_num) two,
    div_lt_div_iff₀ (by positivity) (by positivity)]
  exact_mod_cast Iff.rfl

/-- The places where the search for numbers of 32 bits begins and ends, by their exponents. -/
theorem places_sub : ∀ index < 254,
    let exponent : Int := (index : Nat) - 149
    let last := exponent * 30103 / 100000 - 1
    let first := (1 + exponent) * 30103 / 100000 + 2
    10 ^ last.toNat * 2 ^ (-exponent).toNat < 2 ^ exponent.toNat * 10 ^ (-last).toNat ∧
      ¬ 10 ^ (first + 1).toNat * 2 ^ (-exponent).toNat <
        2 ^ exponent.toNat * 10 ^ (-(first + 1)).toNat := by
  decide +kernel

theorem isShort_shortest {mantissa : Nat} {exponent : Int}
    (canonical : single.Canonical mantissa exponent) (spaced : single.Spaced mantissa exponent) :
    IsShort mantissa exponent (single.shortest mantissa exponent) := by
  have least : -149 ≤ exponent := canonical.least
  have greatest : exponent ≤ 104 := canonical.greatest
  have bits : Nat.log2 mantissa < 24 := (Nat.log2_lt canonical.some.ne').mpr canonical.fits
  obtain ⟨fine, rough⟩ := places_sub (exponent + 149).toNat (by omega)
  rw [show (((exponent + 149).toNat : Nat) : Int) - 149 = exponent by omega,
    ← ten_lt_two_iff] at fine rough
  obtain ⟨digits, last, stops, point, given, coarse⟩ :=
    search_stops (fun _ => exists_gridPoint? canonical.some spaced) fine (single.precision + 5)
      (firstPlace mantissa exponent) (by simp only [firstPlace]; omega)
      (by simp only [firstPlace, single]; omega) (by
        refine (not_lt.mp rough).trans (zpow_le_zpow_right₀ (by norm_num) ?_)
        simp only [firstPlace]
        omega)
  rw [shortest, stops]
  refine ⟨given, isNearest_of_gridPoint? canonical.some spaced point, coarse, fun fine => ?_⟩
  obtain ⟨count, found, near⟩ := gridPoint?_of_fine canonical.some spaced fine
  exact Option.some.inj (found.symm.trans point) ▸ near

section

variable {mantissa : Nat} {exponent : Int} {decimal : Decimal}
  (short : IsShort mantissa exponent decimal)

include short

theorem IsShort.close : |amount mantissa exponent - decimal.value| ≤ 2 ^ exponent / 2 := by
  have unit : (0 : ℚ) < 2 ^ exponent := by positivity
  rw [amount, abs_mul_sub _ _ unit]
  linarith [mul_le_mul_of_nonneg_right short.near.close unit.le]

variable (canonical : single.Canonical mantissa exponent)

include canonical

theorem IsShort.value_le : decimal.value ≤ (2 ^ 24 - 1 / 2) * 2 ^ exponent := by
  have unit : (0 : ℚ) < 2 ^ exponent := by positivity
  have fits : (mantissa : ℚ) + 1 ≤ 2 ^ 24 := by exact_mod_cast canonical.fits
  have low := (abs_le.mp short.close).1
  rw [amount] at low
  linarith [mul_le_mul_of_nonneg_right fits unit.le]

theorem IsShort.digits_lt : decimal.digits < 10 * 2 ^ 24 := by
  have grid : (0 : ℚ) < 10 ^ decimal.exponent := by positivity
  have coarse := short.coarse
  rw [zpow_add_one₀ (by norm_num)] at coarse
  have bound : (decimal.digits : ℚ) < 10 * 2 ^ 24 := by
    refine lt_of_mul_lt_mul_right ?_ grid.le
    calc (decimal.digits : ℚ) * 10 ^ decimal.exponent ≤ (2 ^ 24 - 1 / 2) * 2 ^ exponent :=
          short.value_le canonical
      _ < 2 ^ 24 * 2 ^ exponent := by gcongr; norm_num
      _ ≤ 10 * 2 ^ 24 * 10 ^ decimal.exponent := by linarith
  exact_mod_cast bound

theorem IsShort.exponent_bounds : -45 ≤ decimal.exponent ∧ decimal.exponent ≤ 38 := by
  have ten : (1 : ℚ) < 10 := by norm_num
  have two {less more : Int} (le : less ≤ more) : (2 : ℚ) ^ less ≤ 2 ^ more :=
    zpow_le_zpow_right₀ (by norm_num) le
  constructor
  · have low : (10 : ℚ) ^ (-45 : Int) < 10 ^ (decimal.exponent + 1) :=
      calc (10 : ℚ) ^ (-45 : Int) < 2 ^ (-149 : Int) := (ten_lt_two_iff _ _).mpr (by decide)
        _ ≤ 2 ^ exponent := two canonical.least
        _ ≤ 10 ^ (decimal.exponent + 1) := short.coarse
    have := (zpow_lt_zpow_iff_right₀ ten).mp low
    omega
  · have unit : (0 : ℚ) < 2 ^ exponent := by positivity
    have some : (1 : ℚ) ≤ decimal.digits := by exact_mod_cast short.given
    have high : (10 : ℚ) ^ decimal.exponent < 10 ^ (39 : Int) :=
      calc (10 : ℚ) ^ decimal.exponent ≤ decimal.value :=
            le_mul_of_one_le_left (by positivity) some
        _ ≤ (2 ^ 24 - 1 / 2) * 2 ^ exponent := short.value_le canonical
        _ < 2 ^ 24 * 2 ^ exponent := by gcongr; norm_num
        _ = 2 ^ (24 + exponent) := by rw [zpow_add₀ (by norm_num)]; norm_num
        _ ≤ 2 ^ (128 : Int) := two (by have : exponent ≤ 104 := canonical.greatest; omega)
        _ ≤ 10 ^ (39 : Int) :=
          not_lt.mp fun less => absurd ((ten_lt_two_iff _ _).mp less) (by decide)
    have := (zpow_lt_zpow_iff_right₀ ten).mp high
    omega

end

end FloatFormat

end SourceIndex
