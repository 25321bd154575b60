import Unknowns.Proofs.Binary64.Order

/-! Positive products and quotients come from positive numbers. -/

namespace Unknowns.Binary64

variable {number divisor other : Binary64} {negative : Bool} {numerator denominator : Nat}
  {factor : Magnitude}

/-- Nothing that is not above zero is rounded to what is above zero. -/
theorem of_isBelow_zero_ofUnits (counted : 0 < denominator)
    (above : (zero false).isBelow (ofUnits negative numerator denominator) = true) :
    negative = false ∧ 0 < numerator := by
  obtain ⟨place, placed, less⟩ := position_pos above
  rw [position_ofUnits, Option.some.injEq] at placed
  subst placed
  cases negative with
  | true =>
    rw [signedCount_true] at less
    omega
  | false =>
    refine ⟨rfl, Nat.pos_of_ne_zero ?_⟩
    rintro rfl
    rw [Magnitude.nearestUnits_zero counted, Nat.zero_min] at less
    exact absurd less (by decide)

/-- A positive finite number is one without a sign. -/
theorem finite_isBelow_iff {magnitude : Magnitude} :
    (zero false).isBelow (.finite negative magnitude) = true ↔
      negative = false ∧ 0 < magnitude.units := by
  simp [isBelow_zero_iff]

/-- A quotient by a positive number is positive only if the dividend is. -/
theorem isBelow_zero_of_div (positive : (zero false).isBelow divisor = true)
    (above : (zero false).isBelow (number.div divisor) = true) :
    (zero false).isBelow number = true := by
  rcases isBelow_zero_iff.mp positive with rfl | ⟨magnitude, rfl, counted⟩
  · -- Divided by infinity, nothing stays above zero.
    cases number with
    | finite negative dividend =>
      rw [div] at above
      exact absurd (finite_isBelow_iff.mp above).2 (Nat.lt_irrefl 0)
    | _ => cases above
  · cases number with
    | notANumber => cases above
    | infinite negative => rwa [div, Bool.xor_false] at above
    | finite negative dividend =>
      rw [div_eq_ofUnits negative dividend counted] at above
      obtain ⟨sign, scaled⟩ := of_isBelow_zero_ofUnits counted above
      exact finite_isBelow_iff.mpr ⟨sign, Nat.pos_of_mul_pos_right scaled⟩

/-- A product with a positive finite number is positive only if the other factor is. -/
theorem isBelow_zero_of_mul (counted : 0 < factor.units)
    (above : (zero false).isBelow (number.mul (.finite false factor)) = true) :
    (zero false).isBelow number = true := by
  cases number with
  | notANumber => cases above
  | infinite negative => rwa [mul, if_neg (Nat.ne_of_gt counted), Bool.xor_false] at above
  | finite negative other =>
    rw [mul, Bool.xor_false] at above
    obtain ⟨sign, scaled⟩ := of_isBelow_zero_ofUnits unitsPerOne_pos above
    exact finite_isBelow_iff.mpr ⟨sign, Nat.pos_of_mul_pos_right scaled⟩

/-- Whether a number is neither infinite nor undefined. -/
def isFinite : Binary64 → Bool
  | .finite _ _ => true
  | _ => false

/-- A finite positive number is that of a positive count. -/
theorem exists_units (bounded : number.isFinite = true)
    (above : (zero false).isBelow number = true) :
    ∃ magnitude : Magnitude, number = .finite false magnitude ∧ 0 < magnitude.units := by
  rcases isBelow_zero_iff.mp above with rfl | counted
  · cases bounded
  · exact counted

/-- A positive finite quotient by a positive number is that of a magnitude. -/
theorem exists_dividend (positive : (zero false).isBelow divisor = true)
    (above : (zero false).isBelow (number.div divisor) = true)
    (bounded : (number.div divisor).isFinite = true) :
    ∃ magnitude : Magnitude, number = .finite false magnitude := by
  rcases isBelow_zero_iff.mp (isBelow_zero_of_div positive above) with rfl | ⟨magnitude, same, _⟩
  · -- Infinity stays infinite, or is undefined.
    rcases isBelow_zero_iff.mp positive with rfl | ⟨_, rfl, _⟩ <;> cases bounded
  · exact ⟨magnitude, same⟩

/-- Divided by a finite positive number, what is at most this is at most one. -/
theorem div_isAtMost_one (bounded : other.isFinite = true)
    (above : (zero false).isBelow other = true) (ordered : number.isAtMost other = true) :
    (number.div other).isAtMost (ofNat 1) = true := by
  obtain ⟨magnitude, rfl, counted⟩ := exists_units bounded above
  rw [← div_itself counted]
  exact div_isAtMost_div counted ordered

/-- Divided by a finite positive number, what is at least this is at least one. -/
theorem one_isAtMost_div (bounded : other.isFinite = true)
    (above : (zero false).isBelow other = true) (ordered : other.isAtMost number = true) :
    (ofNat 1).isAtMost (number.div other) = true := by
  obtain ⟨magnitude, rfl, counted⟩ := exists_units bounded above
  rw [← div_itself counted]
  exact div_isAtMost_div counted ordered

/-- Positive numbers at one place are the same. -/
theorem eq_of_isEqualTo (positive : (zero false).isBelow number = true)
    (positiveToo : (zero false).isBelow other = true) (equal : number.isEqualTo other = true) :
    number = other := by
  unfold isEqualTo related at equal
  rcases isBelow_zero_iff.mp positive with rfl | ⟨magnitude, rfl, _⟩ <;>
    rcases isBelow_zero_iff.mp positiveToo with rfl | ⟨second, rfl, _⟩ <;>
    simp only [position, signedCount_false, decide_eq_true_eq, Int.natCast_inj] at equal
  · rfl
  · exact absurd equal (Nat.ne_of_gt second.inRange)
  · exact absurd equal (Nat.ne_of_lt magnitude.inRange)
  · rw [Magnitude.eq_of_units equal]

end Unknowns.Binary64
