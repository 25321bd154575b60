import Mathlib.Algebra.Order.Floor.Semifield
import Mathlib.Algebra.Order.Ring.Abs
import Mathlib.Data.Nat.Cast.Order.Field
import Mathlib.Data.Nat.Log
import Mathlib.Data.Rat.Floor
import Mathlib.Tactic.FieldSimp
import Mathlib.Tactic.GCongr
import Mathlib.Tactic.Linarith
import Mathlib.Tactic.Positivity
import Mathlib.Tactic.Ring
import Unknowns.Binary64.Basic

/-! Rounding keeps the order of quotients, and moves each of them as little as it can. -/

namespace Unknowns

/-- A whole number is the nearest to a fraction, and of two that are equally near the even one. -/
structure IsNearestEven (exact : ℚ) (whole : ℤ) : Prop where
  near : |exact - whole| ≤ 1 / 2
  even : |exact - whole| = 1 / 2 → Even whole

/-- The whole numbers nearest to fractions are in the order of these. -/
theorem IsNearestEven.le {exact other : ℚ} {whole second : ℤ} (nearest : IsNearestEven exact whole)
    (nearestToo : IsNearestEven other second) (ordered : exact ≤ other) : whole ≤ second := by
  by_contra above
  have apart : (second : ℚ) + 1 ≤ whole := by exact_mod_cast Int.not_le.mp above
  obtain ⟨_, low⟩ := abs_sub_le_iff.mp nearest.near
  obtain ⟨high, _⟩ := abs_sub_le_iff.mp nearestToo.near
  -- Only one fraction is left for both, halfway between the two whole numbers.
  have halfway : exact - whole = -(1 / 2) := by linarith
  have halfwayToo : other - second = 1 / 2 := by linarith
  have even : Even whole := nearest.even (by rw [halfway]; norm_num)
  have evenToo : Even second := nearestToo.even (by rw [halfwayToo]; norm_num)
  have next : whole = second + 1 := by
    have : (whole : ℚ) = second + 1 := by linarith
    exact_mod_cast this
  rw [next] at even
  exact (Int.even_add_one.mp even) evenToo

/-- The whole number nearest to a fraction turns its sign with it. -/
theorem IsNearestEven.neg {exact : ℚ} {whole : ℤ} (nearest : IsNearestEven exact whole) :
    IsNearestEven (-exact) (-whole) := by
  have distance : |-exact - ((-whole : ℤ) : ℚ)| = |exact - whole| := by
    rw [Int.cast_neg, neg_sub_neg, abs_sub_comm]
  constructor
  · rw [distance]
    exact nearest.near
  · rw [distance]
    exact fun halfway => (nearest.even halfway).neg

/-- A quotient halfway between two whole numbers is rounded to the even one. -/
theorem roundedQuotient_even {numerator denominator : Nat} (positive : 0 < denominator)
    (halfway : 2 * (roundedQuotient numerator denominator * denominator) =
        2 * numerator + denominator ∨
      2 * numerator = 2 * (roundedQuotient numerator denominator * denominator) + denominator) :
    Even (roundedQuotient numerator denominator) := by
  have split := Nat.div_add_mod numerator denominator
  have rest := Nat.mod_lt numerator positive
  rw [Nat.mul_comm] at split
  rw [Nat.even_iff]
  simp only [roundedQuotient] at halfway ⊢
  generalize numerator / denominator = floor at *
  generalize numerator % denominator = remainder at *
  -- Unless the rest is half of the denominator, the quotient is not halfway between any two.
  rcases Nat.lt_trichotomy (2 * remainder) denominator with less | half | more
  · simp only [less, if_true] at halfway
    omega
  · simp only [half, lt_irrefl, if_false]
    split <;> omega
  · simp only [more, Nat.lt_asymm more, if_true, if_false, Nat.add_mul] at halfway
    omega

/-- Rounding finds the nearest whole number. -/
theorem roundedQuotient_isNearestEven (numerator : Nat) {denominator : Nat}
    (positive : 0 < denominator) :
    IsNearestEven (numerator / denominator) (roundedQuotient numerator denominator : Nat) := by
  obtain ⟨high, low⟩ := @roundedQuotient_near numerator denominator positive
  have even := @roundedQuotient_even numerator denominator positive
  generalize roundedQuotient numerator denominator = rounded at *
  have divisor : (0 : ℚ) < denominator := by exact_mod_cast positive
  constructor
  · have high : 2 * ((rounded : ℚ) * denominator) ≤ 2 * numerator + denominator := by
      exact_mod_cast high
    have low : 2 * (numerator : ℚ) ≤ 2 * (rounded * denominator) + denominator := by
      exact_mod_cast low
    push_cast
    rw [abs_sub_le_iff, sub_le_iff_le_add, div_le_iff₀ divisor, sub_le_comm, le_div_iff₀ divisor]
    constructor <;> linarith
  · intro halfway
    push_cast at halfway
    rw [Int.even_coe_nat]
    -- Whichever side the quotient lies on, it is half a denominator away.
    rcases eq_or_eq_neg_of_abs_eq halfway with above | below
    · rw [sub_eq_iff_eq_add, div_eq_iff divisor.ne'] at above
      have above : 2 * (numerator : ℚ) = 2 * (rounded * denominator) + denominator := by linarith
      exact even (.inr (by exact_mod_cast above))
    · rw [sub_eq_iff_eq_add, div_eq_iff divisor.ne'] at below
      have below : 2 * ((rounded : ℚ) * denominator) = 2 * numerator + denominator := by linarith
      exact even (.inl (by exact_mod_cast below))

variable {numerator denominator other divisor : Nat}

/-- Rounding keeps the order of quotients. -/
theorem roundedQuotient_mono (positive : 0 < denominator) (positiveToo : 0 < divisor)
    (ordered : (numerator : ℚ) / denominator ≤ other / divisor) :
    roundedQuotient numerator denominator ≤ roundedQuotient other divisor := by
  have nearest := (roundedQuotient_isNearestEven numerator positive).le
    (roundedQuotient_isNearestEven other positiveToo) ordered
  exact_mod_cast nearest

/-- Rounding never passes a whole number from above that the quotient does not pass. -/
theorem le_roundedQuotient {bound : Nat} (positive : 0 < denominator)
    (above : bound * denominator ≤ numerator) : bound ≤ roundedQuotient numerator denominator := by
  rw [← roundedQuotient_mul bound denominator positive]
  apply roundedQuotient_mono positive positive
  gcongr

namespace Magnitude

/-- Greater counts have no fewer low bits that they cannot use. -/
theorem unusedBits_mono {count larger : Nat} (ordered : count ≤ larger) :
    unusedBits count ≤ unusedBits larger := by
  unfold unusedBits
  rw [Nat.log2_eq_log_two, Nat.log2_eq_log_two]
  exact Nat.sub_le_sub_right (Nat.log_mono_right ordered) 52

/-- A count whose low bits cannot all be used has more than 52 bits. -/
theorem normal_of_unusedBits {count : Nat} (long : 0 < unusedBits count) : 2 ^ 52 ≤ count := by
  unfold unusedBits at long
  have positive : count ≠ 0 := by
    rintro rfl
    exact absurd long (by decide)
  exact (Nat.le_log2 positive).mp (by omega)

/-- A count of more than 52 bits has these in front of those that it cannot use. -/
theorem le_of_normal {count : Nat} (normal : 2 ^ 52 ≤ count) :
    2 ^ 52 * 2 ^ unusedBits count ≤ count := by
  have positive : count ≠ 0 := by omega
  have leading : 52 + unusedBits count = count.log2 := by
    have bits := (Nat.le_log2 positive).mpr normal
    unfold unusedBits
    omega
  rw [← Nat.pow_add, leading]
  exact Nat.log2_self_le positive

/-- The nearest count does not reach past the length of the quotient. -/
theorem nearestUnits_le (positive : 0 < denominator) :
    nearestUnits numerator denominator ≤
      2 ^ 53 * 2 ^ unusedBits (numerator / denominator) := by
  have room := quotient_le_significand numerator denominator positive
  simp only [Nat.pow_eq] at room
  simp only [nearestUnits, Nat.pow_eq]
  exact Nat.mul_le_mul_right _
    (roundedQuotient_le (Nat.mul_pos positive (Nat.two_pow_pos _)) room)

/-- The nearest count to a long quotient is at least as long. -/
theorem le_nearestUnits (positive : 0 < denominator)
    (long : 0 < unusedBits (numerator / denominator)) :
    2 ^ 52 * 2 ^ unusedBits (numerator / denominator) ≤ nearestUnits numerator denominator := by
  simp only [nearestUnits, Nat.pow_eq]
  refine Nat.mul_le_mul_right _ (le_roundedQuotient (Nat.mul_pos positive (Nat.two_pow_pos _)) ?_)
  have floor := Nat.mul_le_of_le_div _ _ _ (le_of_normal (normal_of_unusedBits long))
  linarith

/-- Rounding to a representable count keeps the order of quotients. -/
theorem nearestUnits_mono (positive : 0 < denominator) (positiveToo : 0 < divisor)
    (ordered : (numerator : ℚ) / denominator ≤ other / divisor) :
    nearestUnits numerator denominator ≤ nearestUnits other divisor := by
  have floors : numerator / denominator ≤ other / divisor := by
    rw [← Nat.floor_div_eq_div (K := ℚ), ← Nat.floor_div_eq_div (K := ℚ)]
    exact Nat.floor_le_floor ordered
  rcases Nat.lt_or_eq_of_le (unusedBits_mono floors) with shorter | same
  · -- A power of two lies between the lengths of the quotients, which neither rounding passes.
    calc nearestUnits numerator denominator
        ≤ 2 ^ 53 * 2 ^ unusedBits (numerator / denominator) := nearestUnits_le positive
      _ = 2 ^ 52 * 2 ^ (unusedBits (numerator / denominator) + 1) := by ring
      _ ≤ 2 ^ 52 * 2 ^ unusedBits (other / divisor) :=
        Nat.mul_le_mul_left _ (Nat.pow_le_pow_right two_pos shorter)
      _ ≤ nearestUnits other divisor := le_nearestUnits positiveToo (by omega)
  · -- With the same gap between representable counts, whole numbers of gaps are rounded to.
    simp only [nearestUnits, Nat.pow_eq, same]
    apply Nat.mul_le_mul_right
    apply roundedQuotient_mono (Nat.mul_pos positive (Nat.two_pow_pos _))
      (Nat.mul_pos positiveToo (Nat.two_pow_pos _))
    push_cast
    rw [← div_div, ← div_div]
    gcongr

/-- A representable count is the nearest one to itself. -/
theorem nearestUnits_units (magnitude : Magnitude) (positive : 0 < denominator) :
    nearestUnits (magnitude.units * denominator) denominator = magnitude.units := by
  obtain ⟨significand, exponent, short, units⟩ := magnitude.representable
  simp only [Nat.pow_eq] at short units
  -- No more low bits are unused than the exponent leaves free.
  have free : unusedBits magnitude.units ≤ exponent := by
    rcases Nat.eq_zero_or_pos (unusedBits magnitude.units) with none | long
    · omega
    · have reach : 2 ^ (52 + unusedBits magnitude.units) < 2 ^ (53 + exponent) := by
        rw [Nat.pow_add, Nat.pow_add]
        calc 2 ^ 52 * 2 ^ unusedBits magnitude.units
            ≤ magnitude.units := le_of_normal (normal_of_unusedBits long)
          _ = significand * 2 ^ exponent := units
          _ < 2 ^ 53 * 2 ^ exponent := Nat.mul_lt_mul_of_pos_right short (Nat.two_pow_pos _)
      have := (Nat.pow_lt_pow_iff_right (by decide)).mp reach
      omega
  obtain ⟨gaps, whole⟩ : 2 ^ unusedBits magnitude.units ∣ magnitude.units := by
    have divides : 2 ^ unusedBits magnitude.units ∣ significand * 2 ^ exponent :=
      Dvd.dvd.mul_left (Nat.pow_dvd_pow 2 free) significand
    rwa [← units] at divides
  simp only [nearestUnits, Nat.pow_eq, Nat.mul_div_cancel _ positive]
  have quotient : magnitude.units * denominator =
      gaps * (denominator * 2 ^ unusedBits magnitude.units) := by
    conv_lhs => rw [whole]
    ring
  rw [quotient, roundedQuotient_mul _ _ (Nat.mul_pos positive (Nat.two_pow_pos _)), Nat.mul_comm,
    ← whole]

/-- A quotient in the normal range is moved by one part in `2 ^ 53` at most. -/
theorem nearestUnits_near (positive : 0 < denominator)
    (normal : 2 ^ 52 ≤ numerator / denominator) :
    |(nearestUnits numerator denominator : ℚ) - numerator / denominator| ≤
      numerator / denominator / 2 ^ 53 := by
  have divisor : (0 : ℚ) < denominator := by exact_mod_cast positive
  -- The gap between representable counts is at most one part in `2 ^ 52` of the quotient.
  have room : (2 : ℚ) ^ 52 * 2 ^ unusedBits (numerator / denominator) ≤
      numerator / denominator := by
    have floor : ((2 ^ 52 * 2 ^ unusedBits (numerator / denominator) : ℕ) : ℚ) ≤
        (numerator / denominator : ℕ) := by exact_mod_cast le_of_normal normal
    push_cast at floor
    exact floor.trans Nat.cast_div_le
  have near := (roundedQuotient_isNearestEven numerator
    (Nat.mul_pos positive (Nat.two_pow_pos (unusedBits (numerator / denominator))))).near
  simp only [nearestUnits, Nat.pow_eq]
  push_cast at near ⊢
  generalize unusedBits (numerator / denominator) = unused at *
  generalize roundedQuotient numerator (denominator * 2 ^ unused) = rounded at *
  have gap : (0 : ℚ) < 2 ^ unused := by positivity
  have scaled : (rounded : ℚ) * 2 ^ unused - numerator / denominator =
      -((numerator / (denominator * 2 ^ unused) - rounded) * 2 ^ unused) := by
    field_simp
    ring
  rw [scaled, abs_neg, abs_mul, abs_of_pos gap]
  calc |(numerator : ℚ) / (denominator * 2 ^ unused) - rounded| * 2 ^ unused
      ≤ 1 / 2 * 2 ^ unused := by gcongr
    _ ≤ numerator / denominator / 2 ^ 53 := by
      rw [le_div_iff₀ (by positivity)]
      linarith

end Magnitude

end Unknowns
