import Metacard.Proofs.Number.Rounding
/-!
# The shortest decimal reads back

On the grid with seventeen digits one of the two neighbours of a double is near to it, so the search
for the shortest decimal ends with one that reads back. The last grid is never left without a hit.
-/

set_option autoImplicit false

namespace Metacard

namespace Decimal

theorem scaled_eq (n : Nat) (scale : Int) :
    scaled n scale = (n * 10 ^ scale.toNat, 10 ^ (-scale).toNat) := by
  rw [scaled]
  split
  · rename_i nonneg
    rw [Nat.pow_eq, Int.toNat_of_nonpos (Int.neg_nonpos_of_nonneg nonneg), Nat.pow_zero]
  · rename_i negative
    rw [Nat.pow_eq, Int.toNat_of_nonpos (Int.le_of_lt (Int.not_le.1 negative)), Nat.pow_zero,
      Nat.mul_one]

end Decimal

namespace Magnitude

theorem one_pos : 0 < one := by
  decide +kernel

theorem one_le : one ≤ Nat.pow 10 324 := by
  decide +kernel

-- Unfolded, it would be computed wherever two quotients are compared.
attribute [local irreducible] one

def ofScaled? (n : Nat) (scale : Int) : Option Magnitude :=
  nearest? (Decimal.scaled n scale).1 (Decimal.scaled n scale).2

theorem readsBack_iff {x : Magnitude} {n : Nat} {scale : Int} :
    x.readsBack n scale = true ↔ ofScaled? n scale = some x := by
  simp only [readsBack, ofScaled?, decide_eq_true_eq]

/-- The distance of two neighbours on the grid of a scale, and the place of a double between them,
both measured in the same parts of a unit. -/
def step (scale : Int) : Nat :=
  one * 10 ^ scale.toNat

def position (x : Magnitude) (scale : Int) : Nat :=
  x.units * 10 ^ (-scale).toNat

theorem step_pos (scale : Int) : 0 < step scale :=
  Nat.mul_pos one_pos (Nat.pow_pos (by decide))

theorem ofScaled?_eq (n : Nat) (scale : Int) :
    ofScaled? n scale = nearestUnits? (n * step scale) (10 ^ (-scale).toNat) := by
  rw [ofScaled?, Decimal.scaled_eq, nearest?, Nat.mul_left_comm, step]

theorem ofScaled?_mul_pow (n zeros : Nat) (scale : Int) :
    ofScaled? (n * 10 ^ zeros) scale = ofScaled? n (scale + zeros) := by
  rw [ofScaled?_eq, ofScaled?_eq]
  apply nearestUnits?_congr (Nat.pow_pos (by decide)) (Nat.pow_pos (by decide))
  have exponents : zeros + scale.toNat + (-(scale + zeros)).toNat =
      (scale + zeros).toNat + (-scale).toNat := by omega
  calc n * 10 ^ zeros * step scale * 10 ^ (-(scale + zeros)).toNat
      = n * one * 10 ^ (zeros + scale.toNat + (-(scale + zeros)).toNat) := by
        rw [step]
        ring
    _ = n * one * 10 ^ ((scale + zeros).toNat + (-scale).toNat) := by rw [exponents]
    _ = n * step (scale + zeros) * 10 ^ (-scale).toNat := by
        rw [step]
        ring

theorem place_of_units_eq_zero {x : Magnitude} (zero : x.units = 0) : x.place = 0 := by
  rw [units] at zero
  split at zero
  · exact zero
  · have := Nat.mul_eq_zero.1 zero
    rw [Nat.pow_eq] at this
    have := Nat.two_pow_pos (x.place / binade - 1)
    simp only [binade] at *
    omega

theorem units_pos_of_place_ne_zero {x : Magnitude} (nonzero : x.place ≠ 0) : 0 < x.units :=
  Nat.pos_of_ne_zero fun zero => nonzero (place_of_units_eq_zero zero)

theorem ofScaled?_zero (scale : Int) : ofScaled? 0 scale = some zero := by
  rw [ofScaled?_eq, Nat.zero_mul]
  have place : nearestPlace 0 (10 ^ (-scale).toNat) = 0 := by
    simp only [nearestPlace, Nat.zero_div, Nat.log2_zero]
    rw [Nat.zero_sub, Nat.mul_zero, Nat.zero_add]
    apply divToNearest_eq
    · simp
    · simp
  simp only [nearestUnits?, place]
  rfl

/-- A quotient is at least the power of ten that its leading digit stands for. -/
theorem pow_length_mul_le {n divisor : Nat} (positive : 0 < divisor) (reached : divisor ≤ n) :
    10 ^ ((Nat.toDigits 10 (n / divisor)).length - 1) * divisor ≤ n := by
  have leading : 10 ^ ((Nat.toDigits 10 (n / divisor)).length - 1) ≤ n / divisor := by
    by_contra less
    rw [Nat.not_le] at less
    rcases Nat.eq_zero_or_pos ((Nat.toDigits 10 (n / divisor)).length - 1) with none | some
    · rw [none, Nat.pow_zero, Nat.lt_one_iff, Nat.div_eq_zero_iff] at less
      omega
    · have := (Nat.length_toDigits_le_iff (by decide) some).2 less
      omega
  exact Nat.le_trans (Nat.mul_le_mul_right _ leading) (Nat.div_mul_le_self _ _)

theorem readsBack_eq_nearest (x : Magnitude) (n : Nat) (scale : Int) :
    x.readsBack n scale =
      decide (nearestUnits? (n * step scale) (10 ^ (-scale).toNat) = some x) := by
  rw [← ofScaled?_eq]
  rfl

theorem onGrid?_eq (x : Magnitude) (scale : Int) :
    x.onGrid? scale =
      let below := x.position scale / step scale
      if x.readsBack below scale && x.readsBack (below + 1) scale then
        some (divToNearest (x.position scale) (step scale))
      else if x.readsBack below scale then some below
      else if x.readsBack (below + 1) scale then some (below + 1)
      else none := by
  have below : (Decimal.scaled x.units (-scale)).1 = x.position scale := by
    rw [Decimal.scaled_eq, position]
  have divisor : one * (Decimal.scaled x.units (-scale)).2 = step scale := by
    rw [Decimal.scaled_eq, step, Int.neg_neg]
  simp only [onGrid?, below, divisor]

theorem divToNearest_eq_or (numerator denominator : Nat) :
    divToNearest numerator denominator = numerator / denominator ∨
      divToNearest numerator denominator = numerator / denominator + 1 := by
  simp only [divToNearest]
  split
  · exact .inl rfl
  · split
    · exact .inr rfl
    · omega

/-- Whatever the search finds on a grid reads back. -/
theorem readsBack_of_onGrid? {x : Magnitude} {scale : Int} {n : Nat}
    (found : x.onGrid? scale = some n) : x.readsBack n scale = true := by
  simp only [onGrid?_eq] at found
  split at found
  · rename_i both
    obtain ⟨below, above⟩ := Bool.and_eq_true_iff.1 both
    cases Option.some.inj found
    rcases divToNearest_eq_or (x.position scale) (step scale) with same | next
    · rw [same]
      exact below
    · rw [next]
      exact above
  · split at found
    · rename_i below
      cases Option.some.inj found
      exact below
    · split at found
      · rename_i above
        cases Option.some.inj found
        exact above
      · contradiction

/-- A point of a fine grid that is at most half a step away reads back. -/
theorem readsBack_of_close {x : Magnitude} {scale : Int} {n : Nat}
    (fine : 2 ^ 53 * step scale < x.position scale)
    (below : 2 * x.position scale ≤ 2 * (n * step scale) + step scale)
    (above : 2 * (n * step scale) ≤ 2 * x.position scale + step scale) :
    x.readsBack n scale = true := by
  rw [readsBack_eq_nearest, decide_eq_true_eq]
  apply nearestUnits?_of_near
  rw [position] at fine below above
  constructor
  · omega
  · omega

theorem onGrid?_ne_none_of_fine {x : Magnitude} {scale : Int}
    (fine : 2 ^ 53 * step scale < x.position scale) : x.onGrid? scale ≠ none := by
  have parts := Nat.div_add_mod (x.position scale) (step scale)
  have small := Nat.mod_lt (x.position scale) (step_pos scale)
  rw [Nat.mul_comm] at parts
  have next := Nat.add_mul (x.position scale / step scale) 1 (step scale)
  have hit : x.readsBack (x.position scale / step scale) scale = true ∨
      x.readsBack (x.position scale / step scale + 1) scale = true := by
    by_cases half : 2 * (x.position scale % step scale) ≤ step scale
    · exact .inl (readsBack_of_close fine (by omega) (by omega))
    · exact .inr (readsBack_of_close fine (by omega) (by omega))
  simp only [onGrid?_eq]
  split
  · simp
  · split
    · simp
    · rename_i noneBelow
      rw [if_pos (hit.resolve_left noneBelow)]
      simp

theorem fine_of_pow_le {x : Magnitude} {leading shift : Nat} {scale : Int}
    (reached : 10 ^ leading * one ≤ Nat.pow 10 shift * x.units)
    (place : scale = (leading : Int) - shift - 16) : 2 ^ 53 * step scale < x.position scale := by
  rw [Nat.pow_eq] at reached
  have exponents : leading + (-scale).toNat = scale.toNat + shift + 16 := by omega
  apply Nat.lt_of_mul_lt_mul_right (a := 10 ^ shift)
  calc 2 ^ 53 * step scale * 10 ^ shift
      = 2 ^ 53 * (10 ^ (scale.toNat + shift) * one) := by
        rw [step]
        ring
    _ < 10 ^ 16 * (10 ^ (scale.toNat + shift) * one) :=
        Nat.mul_lt_mul_of_pos_right (by decide) (Nat.mul_pos (Nat.pow_pos (by decide)) one_pos)
    _ = 10 ^ (scale.toNat + shift + 16) * one := by ring
    _ = 10 ^ leading * one * 10 ^ (-scale).toNat := by
        rw [← exponents]
        ring
    _ ≤ 10 ^ shift * x.units * 10 ^ (-scale).toNat := Nat.mul_le_mul_right _ reached
    _ = x.position scale * 10 ^ shift := by
        rw [position]
        ring

/-- Seventeen digits make a grid that is fine enough for every double but zero. -/
theorem fine_seventeen {x : Magnitude} (positive : 0 < x.units) :
    2 ^ 53 * step (x.decimalExponent - 17 + 1) < x.position (x.decimalExponent - 17 + 1) := by
  have reached := pow_length_mul_le one_pos
    (Nat.le_trans one_le (Nat.le_mul_of_pos_right (Nat.pow 10 324) positive))
  have digits := Nat.length_toDigits_pos (b := 10) (n := Nat.pow 10 324 * x.units / one)
  apply fine_of_pow_le reached
  rw [decimalExponent]
  omega

theorem shortestFrom_readsBack {x : Magnitude} (positive : 0 < x.units) {digits extra : Nat}
    (total : digits + extra = 17) :
    ∃ n scale, x.shortestFrom digits extra = .ofScaled n scale ∧ ofScaled? n scale = some x := by
  induction extra generalizing digits with
  | zero =>
    rw [Nat.add_zero] at total
    subst total
    cases found : x.onGrid? (x.decimalExponent - (17 : Nat) + 1) with
    | none => exact absurd found (onGrid?_ne_none_of_fine (fine_seventeen positive))
    | some n =>
      refine ⟨n, x.decimalExponent - (17 : Nat) + 1, ?_, ?_⟩
      · simp only [shortestFrom, found, Option.getD_some]
      · exact readsBack_iff.1 (readsBack_of_onGrid? found)
  | succ extra ih =>
    simp only [shortestFrom]
    cases found : x.onGrid? (x.decimalExponent - digits + 1) with
    | none =>
      rw [Option.map_none, Option.getD_none]
      exact ih (by omega)
    | some n =>
      refine ⟨n, x.decimalExponent - digits + 1, ?_, ?_⟩
      · rw [Option.map_some, Option.getD_some]
      · exact readsBack_iff.1 (readsBack_of_onGrid? found)

theorem shortest_readsBack {x : Magnitude} (positive : 0 < x.units) :
    ∃ n scale, x.shortest = .ofScaled n scale ∧ ofScaled? n scale = some x :=
  shortestFrom_readsBack positive rfl

-- From here on its laws say all about it.
attribute [irreducible] ofScaled?

end Magnitude

end Metacard
