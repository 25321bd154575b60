import Unknowns.Binary64.Rounding

/-! Binary64 magnitudes, counted in the smallest positive number of the format. -/

namespace Unknowns

/-- The number of binary places below one; the smallest unit is at the last of them. -/
def binaryPlaces : Nat := 1074

/-- The number of binary places of the finite range, counted from the smallest unit. -/
def rangePlaces : Nat := 1024 + binaryPlaces

/-- The number of smallest units that make one. -/
def unitsPerOne : Nat := Nat.pow 2 binaryPlaces

/-- The first count of units beyond the finite range. -/
def unitLimit : Nat := Nat.pow 2 rangePlaces

/-- A finite magnitude: a count of units with at most 53 significant bits. -/
structure Magnitude where
  units : Nat
  inRange : units < unitLimit
  representable : ∃ significand exponent,
    significand < Nat.pow 2 53 ∧ units = significand * Nat.pow 2 exponent
deriving DecidableEq

namespace Magnitude

/-- The finite range is not empty. -/
theorem unitLimit_pos : 0 < unitLimit := by
  -- The power itself is too large to be worked out.
  unfold unitLimit
  generalize rangePlaces = places
  exact Nat.two_pow_pos places

/-- The number of low bits that a count of this size cannot use. -/
def unusedBits (count : Nat) : Nat :=
  -- A count up to 53 bits long is written in full, so the subtraction may stop at zero.
  count.log2 - 52

/-- The representable count nearest to a quotient, before the range is looked at. -/
def nearestUnits (numerator denominator : Nat) : Nat :=
  -- Representable counts of this size are multiples of the gap.
  let gap := Nat.pow 2 (unusedBits (numerator / denominator))
  roundedQuotient numerator (denominator * gap) * gap

/-- A quotient has room in 53 bits once its unused low bits are dropped. -/
theorem quotient_le_significand (numerator denominator : Nat) (positive : 0 < denominator) :
    numerator ≤
      Nat.pow 2 53 * (denominator * Nat.pow 2 (unusedBits (numerator / denominator))) := by
  simp only [Nat.pow_eq]
  -- The leading bit of the quotient says how many bits it has.
  have below : numerator / denominator < 2 ^ ((numerator / denominator).log2 + 1) :=
    Nat.lt_log2_self
  have reach : (numerator / denominator).log2 + 1 ≤
      53 + unusedBits (numerator / denominator) := by
    unfold unusedBits; omega
  have room : numerator / denominator < 2 ^ (53 + unusedBits (numerator / denominator)) :=
    Nat.lt_of_lt_of_le below (Nat.pow_le_pow_right (by decide) reach)
  have bound := Nat.le_of_lt ((Nat.div_lt_iff_lt_mul positive).mp room)
  rw [Nat.pow_add] at bound
  calc numerator ≤ 2 ^ 53 * 2 ^ unusedBits (numerator / denominator) * denominator := bound
    _ = 2 ^ 53 * (denominator * 2 ^ unusedBits (numerator / denominator)) := by
      rw [Nat.mul_assoc, Nat.mul_comm denominator]

/-- The nearest count has at most 53 significant bits. -/
theorem nearestUnits_representable (numerator denominator : Nat) :
    ∃ significand exponent, significand < Nat.pow 2 53 ∧
      nearestUnits numerator denominator = significand * Nat.pow 2 exponent := by
  simp only [nearestUnits, Nat.pow_eq]
  have room := quotient_le_significand numerator denominator
  simp only [Nat.pow_eq] at room
  have small : roundedQuotient numerator
      (denominator * 2 ^ unusedBits (numerator / denominator)) ≤ 2 ^ 53 := by
    rcases Nat.eq_zero_or_pos denominator with none | positive
    · -- Nothing is divided, and the rounding stays at most one.
      subst none
      have bounds := (roundedQuotient_bounds numerator
        (0 * 2 ^ unusedBits (numerator / 0))).2
      simp only [Nat.zero_mul, Nat.div_zero] at bounds ⊢
      omega
    · exact roundedQuotient_le (Nat.mul_pos positive (Nat.two_pow_pos _)) (room positive)
  rcases Nat.lt_or_eq_of_le small with fits | carried
  · exact ⟨_, _, fits, rfl⟩
  · -- Rounding carried into a new leading bit, which frees the lowest one.
    refine ⟨2 ^ 52, unusedBits (numerator / denominator) + 1, by decide, ?_⟩
    rw [carried, Nat.pow_succ 2 52, Nat.pow_succ 2 (unusedBits _), Nat.mul_assoc,
      Nat.mul_comm 2 (2 ^ unusedBits _)]

/-- The magnitude nearest to a quotient of units, or none when it leaves the finite range. -/
def nearest? (numerator denominator : Nat) : Option Magnitude :=
  if fits : nearestUnits numerator denominator < unitLimit then
    some ⟨nearestUnits numerator denominator, fits,
      nearestUnits_representable numerator denominator⟩
  else none

/-- The magnitude of zero. -/
def zero : Magnitude :=
  ⟨0, unitLimit_pos, 0, 0, by decide, by simp⟩

/-- The exponent and fraction fields of the encoded magnitude, read as one number. -/
def bits (magnitude : Magnitude) : Nat :=
  let unused := unusedBits magnitude.units
  -- The leading bit of a normal significand counts once more in the exponent field.
  unused * Nat.pow 2 52 + magnitude.units / Nat.pow 2 unused

end Magnitude

end Unknowns
