import Mathlib.Tactic.Linarith
import Mathlib.Tactic.Ring
import Metacard.Number.Shortest
/-!
# Rounding to a double

A quotient of units that is near to a double, by the fifty-fourth part of a binary digit of it, is
rounded to that double. Such a quotient is nearer to the double than half of the way to either of
its neighbours, the lower one of a power of two included.
-/

set_option autoImplicit false

namespace Metacard

theorem divToNearest_eq {numerator denominator n : Nat}
    (below : 2 * (n * denominator) < 2 * numerator + denominator)
    (above : 2 * numerator < 2 * (n * denominator) + denominator) :
    divToNearest numerator denominator = n := by
  have positive : 0 < denominator := by omega
  have parts := Nat.div_add_mod numerator denominator
  have small := Nat.mod_lt numerator positive
  set quotient := numerator / denominator with hquotient
  set remainder := numerator % denominator
  have notAbove : quotient < n + 1 := by
    rw [hquotient, Nat.div_lt_iff_lt_mul positive, Nat.add_mul]
    omega
  have notBelow : n ≤ quotient + 1 := by
    rw [← Nat.lt_succ_iff]
    apply Nat.lt_of_mul_lt_mul_right (a := denominator)
    rw [Nat.succ_mul, Nat.succ_mul, Nat.mul_comm quotient]
    omega
  simp only [divToNearest]
  rcases Nat.lt_or_ge quotient n with less | same
  · have next : n = quotient + 1 := by omega
    rw [next, Nat.add_mul, Nat.mul_comm quotient] at below
    rw [if_neg (by omega), if_pos (by omega), next]
  · have same : n = quotient := by omega
    rw [same, Nat.mul_comm quotient] at above
    rw [if_pos (by omega), same]

theorem divToNearest_mul (numerator denominator : Nat) {factor : Nat} (positive : 0 < factor) :
    divToNearest (numerator * factor) (denominator * factor) =
      divToNearest numerator denominator := by
  have twice : 2 * (numerator * factor % (denominator * factor)) =
      2 * (numerator % denominator) * factor := by
    rw [Nat.mul_mod_mul_right]
    ring
  simp only [divToNearest, Nat.mul_div_mul_right _ _ positive, twice,
    Nat.mul_lt_mul_right positive]

namespace Magnitude

theorem nearestPlace_mul (numerator denominator : Nat) {factor : Nat} (positive : 0 < factor) :
    nearestPlace (numerator * factor) (denominator * factor) =
      nearestPlace numerator denominator := by
  have swap : ∀ power, denominator * factor * power = denominator * power * factor :=
    fun power => by ring
  simp only [nearestPlace, Nat.mul_div_mul_right _ _ positive, swap,
    divToNearest_mul _ _ positive]

theorem nearestPlace_congr {left right leftDivisor rightDivisor : Nat}
    (leftPositive : 0 < leftDivisor) (rightPositive : 0 < rightDivisor)
    (same : left * rightDivisor = right * leftDivisor) :
    nearestPlace left leftDivisor = nearestPlace right rightDivisor := by
  rw [← nearestPlace_mul left leftDivisor rightPositive,
    ← nearestPlace_mul right rightDivisor leftPositive, same, Nat.mul_comm leftDivisor]

theorem nearestUnits?_congr {left right leftDivisor rightDivisor : Nat}
    (leftPositive : 0 < leftDivisor) (rightPositive : 0 < rightDivisor)
    (same : left * rightDivisor = right * leftDivisor) :
    nearestUnits? left leftDivisor = nearestUnits? right rightDivisor := by
  simp only [nearestUnits?, nearestPlace_congr leftPositive rightPositive same]

/-- The quotient of units differs from `x` by less than `x` divided by `2 ^ 54`. -/
def Near (x : Magnitude) (numerator denominator : Nat) : Prop :=
  2 ^ 54 * numerator < (2 ^ 54 + 1) * (x.units * denominator) ∧
    2 ^ 54 * (x.units * denominator) < 2 ^ 54 * numerator + x.units * denominator

theorem log2_eq {numerator denominator exponent : Nat} (positive : 0 < denominator)
    (least : 2 ^ exponent * denominator ≤ numerator)
    (less : numerator < 2 ^ (exponent + 1) * denominator) :
    (numerator / denominator).log2 = exponent := by
  have least : 2 ^ exponent ≤ numerator / denominator :=
    (Nat.le_div_iff_mul_le positive).2 least
  have less : numerator / denominator < 2 ^ (exponent + 1) :=
    (Nat.div_lt_iff_lt_mul positive).2 less
  have nonzero : numerator / denominator ≠ 0 :=
    Nat.ne_of_gt (Nat.lt_of_lt_of_le (Nat.two_pow_pos exponent) least)
  exact (Nat.log2_eq_iff nonzero).2 ⟨least, less⟩

/-- The units of a double beyond the first two rows: its digits, and the power of two that they
are multiplied with. -/
theorem units_eq_of_place {x : Magnitude} {power rest : Nat} (small : rest < binade)
    (place : x.place = (power + 2) * binade + rest) :
    x.units = 2 * ((rest + binade) * 2 ^ power) := by
  have positive : 0 < binade := by decide
  have row : x.place / binade = power + 2 := by
    rw [place, Nat.mul_comm, Nat.mul_add_div positive, Nat.div_eq_of_lt small, Nat.add_zero]
  have column : x.place % binade = rest := by
    rw [place, Nat.mul_comm, Nat.mul_add_mod, Nat.mod_eq_of_lt small]
  have far : ¬ x.place < 2 * binade := by
    rw [place, Nat.add_mul]
    omega
  rw [units, if_neg far, row, column, Nat.pow_eq, show power + 2 - 1 = power + 1 from rfl,
    Nat.pow_succ]
  ring

theorem exists_row {place : Nat} (far : ¬ place < 2 * binade) :
    ∃ power rest, rest < binade ∧ place = (power + 2) * binade + rest := by
  have positive : 0 < binade := by decide
  have rows : 2 ≤ place / binade := (Nat.le_div_iff_mul_le positive).2 (Nat.not_lt.1 far)
  refine ⟨place / binade - 2, place % binade, Nat.mod_lt _ positive, ?_⟩
  rw [Nat.sub_add_cancel rows, Nat.mul_comm]
  exact (Nat.div_add_mod place binade).symm

theorem nearestPlace_of_log2 {numerator denominator shift : Nat} (digits : Nat)
    (log : (numerator / denominator).log2 = shift + 52)
    (below : 2 * (digits * (2 ^ shift * denominator)) <
      2 * numerator + 2 ^ shift * denominator)
    (above : 2 * numerator <
      2 * (digits * (2 ^ shift * denominator)) + 2 ^ shift * denominator) :
    nearestPlace numerator denominator = binade * shift + digits := by
  simp only [nearestPlace, log, Nat.add_sub_cancel]
  rw [Nat.pow_eq, Nat.mul_comm denominator, divToNearest_eq below above]

theorem nearestPlace_of_near {x : Magnitude} {numerator denominator : Nat}
    (near : x.Near numerator denominator) : nearestPlace numerator denominator = x.place := by
  obtain ⟨below, above⟩ := near
  have positive : 0 < denominator := by
    rcases Nat.eq_zero_or_pos denominator with zero | positive
    · subst zero
      omega
    · exact positive
  by_cases first : x.place < 2 * binade
  · have value : x.units = x.place := by rw [units, if_pos first]
    rw [value] at below above
    have bound : x.place * denominator ≤ (2 ^ 53 - 1) * denominator :=
      Nat.mul_le_mul_right _ (by simp only [binade] at first; omega)
    have shift : (numerator / denominator).log2 - 52 = 0 := by
      have less : numerator / denominator < 2 ^ 53 := by
        rw [Nat.div_lt_iff_lt_mul positive]
        omega
      by_cases zero : numerator / denominator = 0
      · rw [zero, Nat.log2_zero]
      · have := (Nat.log2_lt zero).2 less
        omega
    simp only [nearestPlace, shift]
    rw [Nat.mul_zero, Nat.zero_add]
    apply divToNearest_eq
    · simp only [Nat.pow_eq, Nat.pow_zero, Nat.mul_one]
      omega
    · simp only [Nat.pow_eq, Nat.pow_zero, Nat.mul_one]
      omega
  · obtain ⟨power, rest, small, place⟩ := exists_row first
    set grain := 2 ^ power * denominator with hgrain
    have grainPositive : 0 < grain := Nat.mul_pos (Nat.two_pow_pos power) positive
    -- The double lies `rest + binade` double grains above zero.
    set double := (rest + binade) * grain with hdouble
    have value : x.units * denominator = 2 * double := by
      rw [units_eq_of_place small place, hdouble, hgrain]
      ring
    rw [value] at below above
    have upper : double ≤ (2 ^ 53 - 1) * grain :=
      Nat.mul_le_mul_right _ (by simp only [binade] at small ⊢; omega)
    have power53 : 2 ^ (power + 53) * denominator = 2 ^ 53 * grain := by
      rw [hgrain]
      ring
    by_cases reached : 2 ^ 53 * grain ≤ numerator
    · -- The quotient lies in the row of the double.
      have log : (numerator / denominator).log2 = power + 1 + 52 := by
        apply log2_eq positive
        · rw [show power + 1 + 52 = power + 53 from rfl, power53]
          exact reached
        · rw [show power + 1 + 52 + 1 = power + 53 + 1 from rfl, Nat.pow_succ, Nat.mul_right_comm,
            power53]
          omega
      have step : 2 ^ (power + 1) * denominator = 2 * grain := by
        rw [hgrain]
        ring
      have digits : (rest + binade) * (2 * grain) = 2 * double := by
        rw [hdouble]
        ring
      rw [nearestPlace_of_log2 (rest + binade) log, place]
      · ring
      · rw [step, digits]
        omega
      · rw [step, digits]
        omega
    · -- The double is the first of its row, and the quotient lies in the row before.
      have least : rest = 0 := by
        by_contra positiveRest
        have : (binade + 1) * grain ≤ double := Nat.mul_le_mul_right _ (by omega)
        simp only [binade] at this
        omega
      have value : double = 2 ^ 52 * grain := by
        rw [hdouble, least]
        rfl
      have log : (numerator / denominator).log2 = power + 52 := by
        have power52 : 2 ^ (power + 52) * denominator = 2 ^ 52 * grain := by
          rw [hgrain]
          ring
        apply log2_eq positive
        · rw [power52]
          omega
        · rw [show power + 52 + 1 = power + 53 from rfl, power53]
          omega
      rw [nearestPlace_of_log2 (2 * binade) log, place, least]
      · ring
      · rw [← hgrain]
        simp only [binade]
        omega
      · rw [← hgrain]
        simp only [binade]
        omega

theorem nearestUnits?_of_near {x : Magnitude} {numerator denominator : Nat}
    (near : x.Near numerator denominator) : nearestUnits? numerator denominator = some x := by
  have place := nearestPlace_of_near near
  rw [nearestUnits?, dif_pos (place ▸ x.place_lt)]
  congr

end Magnitude

end Metacard
