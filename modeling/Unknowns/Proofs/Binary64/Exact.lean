import Unknowns.Proofs.Binary64.Order

/-! Exact values of finite numbers, and how far from the exact quotient a division ends. -/

namespace Unknowns

/-- A fraction with a sign. -/
def signedFraction (negative : Bool) (value : ℚ) : ℚ :=
  if negative then -value else value

/-- A count with a sign as a fraction. -/
theorem cast_signedCount (negative : Bool) (count : Nat) :
    (Binary64.signedCount negative count : ℚ) = signedFraction negative count := by
  cases negative <;> simp [signedFraction]

/-- A sign stays in front of a quotient. -/
theorem signedFraction_div (negative : Bool) (value divisor : ℚ) :
    signedFraction negative (value / divisor) = signedFraction negative value / divisor := by
  cases negative <;> simp [signedFraction, neg_div]

/-- A sign stays in front of a product. -/
theorem signedFraction_mul (negative : Bool) (value factor : ℚ) :
    signedFraction negative (value * factor) = signedFraction negative value * factor := by
  cases negative <;> simp [signedFraction]

/-- A sign does not change a distance from zero. -/
theorem abs_signedFraction (negative : Bool) (value : ℚ) :
    |signedFraction negative value| = |value| := by
  cases negative <;> simp [signedFraction]

/-- A common sign does not change a distance. -/
theorem abs_signedFraction_sub (negative : Bool) (value other : ℚ) :
    |signedFraction negative value - signedFraction negative other| = |value - other| := by
  cases negative
  · rfl
  · simp only [signedFraction, if_true, neg_sub_neg, abs_sub_comm]

namespace Magnitude

/-- The exact value of a magnitude. -/
def value (magnitude : Magnitude) : ℚ :=
  magnitude.units / unitsPerOne

/-- Values are not negative. -/
theorem value_nonneg (magnitude : Magnitude) : 0 ≤ magnitude.value :=
  div_nonneg (Nat.cast_nonneg _) (Nat.cast_nonneg _)

end Magnitude

namespace Binary64

variable {magnitude : Magnitude} {negative : Bool}

/-- A short whole number is below a finite number when it is below its exact value. -/
theorem ofNat_isBelow_finite {whole : Nat} (short : whole < 2 ^ 53) :
    (ofNat whole).isBelow (.finite negative magnitude) = true ↔
      (whole : ℚ) < signedFraction negative magnitude.value := by
  have one : (0 : ℚ) < unitsPerOne := Nat.cast_pos.mpr unitsPerOne_pos
  have places : (ofNat whole).isBelow (.finite negative magnitude) = true ↔
      ((whole * unitsPerOne : Nat) : Int) < signedCount negative magnitude.units := by
    rw [ofNat_eq_whole short, isBelow_iff]
    constructor
    · rintro ⟨x, y, placed, placedToo, less⟩
      rwa [← Option.some.inj placed, ← Option.some.inj placedToo] at less
    · intro less
      exact ⟨_, _, rfl, rfl, less⟩
  rw [places, Magnitude.value, signedFraction_div, lt_div_iff₀ one, ← cast_signedCount]
  exact_mod_cast Iff.rfl

/-- A quotient of at least one uses all bits of a significand. -/
theorem normal_quotient {divisor : Nat} (positive : 0 < divisor)
    (large : (divisor : ℚ) ≤ magnitude.value) :
    2 ^ 52 ≤ magnitude.units * unitsPerOne / (divisor * unitsPerOne) := by
  have one : (0 : ℚ) < unitsPerOne := Nat.cast_pos.mpr unitsPerOne_pos
  have units : divisor * unitsPerOne ≤ magnitude.units := by
    rw [Magnitude.value, le_div_iff₀ one] at large
    exact_mod_cast large
  have room : 2 ^ 52 ≤ unitsPerOne := by
    have places : 52 ≤ binaryPlaces := by decide
    unfold unitsPerOne
    generalize binaryPlaces = available at *
    exact Nat.pow_le_pow_right two_pos places
  rw [Nat.mul_div_mul_right _ _ unitsPerOne_pos, Nat.le_div_iff_mul_le positive, Nat.mul_comm]
  exact (Nat.mul_le_mul_left divisor room).trans units

/-- Division by a whole number that is no larger is off by one part in `2 ^ 53` at most. -/
theorem div_ofNat_near (negative : Bool) {divisor : Nat} (positive : 0 < divisor)
    (short : divisor < 2 ^ 53) (large : (divisor : ℚ) ≤ magnitude.value) :
    ∃ quotient : Magnitude,
      (finite negative magnitude).div (ofNat divisor) = .finite negative quotient ∧
        |quotient.value - magnitude.value / divisor| ≤ magnitude.value / divisor / 2 ^ 53 := by
  have one : (0 : ℚ) < unitsPerOne := Nat.cast_pos.mpr unitsPerOne_pos
  have counted : 0 < divisor * unitsPerOne := Nat.mul_pos positive unitsPerOne_pos
  have ratio : ((magnitude.units * unitsPerOne : Nat) : ℚ) / (divisor * unitsPerOne : Nat) =
      magnitude.units / divisor := by
    rw [Nat.cast_mul, Nat.cast_mul, mul_div_mul_right _ _ one.ne']
  have near := Magnitude.nearestUnits_near counted (normal_quotient positive large)
  have inRange : Magnitude.nearestUnits (magnitude.units * unitsPerOne) (divisor * unitsPerOne) <
      unitLimit := by
    have least : (1 : ℚ) ≤ divisor := by exact_mod_cast positive
    have smaller : ((magnitude.units * unitsPerOne : Nat) : ℚ) / (divisor * unitsPerOne : Nat) ≤
        (magnitude.units * 1 : Nat) / (1 : Nat) := by
      rw [ratio, Nat.mul_one, Nat.cast_one, div_one]
      exact div_le_self (Nat.cast_nonneg _) least
    -- The quotient is no larger than the dividend, which is its own rounding.
    have bounded := Magnitude.nearestUnits_mono counted Nat.one_pos smaller
    rw [magnitude.nearestUnits_units Nat.one_pos] at bounded
    exact Nat.lt_of_le_of_lt bounded magnitude.inRange
  refine ⟨⟨_, inRange, Magnitude.nearestUnits_representable _ _⟩, ?_, ?_⟩
  · rw [ofNat_eq_whole short,
      div_eq_ofUnits negative magnitude (Magnitude.units_whole_pos short positive),
      Magnitude.units_whole, ofUnits_inRange negative inRange]
  · rw [ratio] at near
    simp only [Magnitude.value]
    rw [div_right_comm, ← sub_div, abs_div, abs_of_pos one, div_right_comm]
    exact div_le_div_of_nonneg_right near one.le

end Binary64

end Unknowns
