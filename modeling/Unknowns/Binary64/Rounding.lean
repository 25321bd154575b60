/-! Rounding a quotient to the nearest whole number, with ties to the even one. -/

namespace Unknowns

/-- The whole number nearest to a quotient, and of two equally near the even one. -/
def roundedQuotient (numerator denominator : Nat) : Nat :=
  let floor := numerator / denominator
  let rest := numerator % denominator
  if 2 * rest < denominator then floor
  else if denominator < 2 * rest then floor + 1
  -- The quotient lies halfway between two whole numbers.
  else if floor % 2 = 0 then floor
  else floor + 1

/-- Rounding moves a quotient by less than one. -/
theorem roundedQuotient_bounds (numerator denominator : Nat) :
    numerator / denominator ≤ roundedQuotient numerator denominator ∧
      roundedQuotient numerator denominator ≤ numerator / denominator + 1 := by
  simp only [roundedQuotient]
  split
  · omega
  · split
    · omega
    · split <;> omega

/-- A quotient without a rest is its own rounding. -/
theorem roundedQuotient_mul (quotient denominator : Nat) (positive : 0 < denominator) :
    roundedQuotient (quotient * denominator) denominator = quotient := by
  simp [roundedQuotient, Nat.mul_div_cancel _ positive, positive]

/-- Rounding never passes a whole number that the quotient does not pass. -/
theorem roundedQuotient_le {numerator denominator bound : Nat}
    (positive : 0 < denominator) (below : numerator ≤ bound * denominator) :
    roundedQuotient numerator denominator ≤ bound := by
  rcases Nat.lt_or_ge (numerator / denominator) bound with smaller | larger
  · exact Nat.le_trans (roundedQuotient_bounds numerator denominator).2 smaller
  · -- The quotient has reached the bound, so nothing is left to round.
    have floor_le : numerator / denominator ≤ bound :=
      Nat.le_of_mul_le_mul_right
        (Nat.le_trans (Nat.div_mul_le_self numerator denominator) below) positive
    have same : numerator = bound * denominator := by
      have reached : bound * denominator ≤ numerator :=
        Nat.le_trans (Nat.mul_le_mul_right denominator larger)
          (Nat.div_mul_le_self numerator denominator)
      omega
    exact Nat.le_of_eq (by rw [same, roundedQuotient_mul bound denominator positive])

/-- The rounding lies within half a unit of the quotient, on both sides. -/
theorem roundedQuotient_near {numerator denominator : Nat} (positive : 0 < denominator) :
    2 * (roundedQuotient numerator denominator * denominator) ≤
        2 * numerator + denominator ∧
      2 * numerator ≤
        2 * (roundedQuotient numerator denominator * denominator) + denominator := by
  have split := Nat.div_add_mod numerator denominator
  have rest := Nat.mod_lt numerator positive
  rw [Nat.mul_comm] at split
  simp only [roundedQuotient]
  generalize numerator / denominator = floor at *
  generalize numerator % denominator = remainder at *
  split
  · omega
  · split
    · rw [Nat.add_mul]; omega
    · split
      · omega
      · rw [Nat.add_mul]; omega

end Unknowns
