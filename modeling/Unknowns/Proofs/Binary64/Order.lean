import Unknowns.Binary64.Arithmetic
import Unknowns.Proofs.Binary64.Nearest

/-! Division by positive numbers keeps the order of numbers, however the quotients are rounded. -/

namespace Unknowns

/-- There are units in one. -/
theorem unitsPerOne_pos : 0 < unitsPerOne := by
  -- The power itself is too large to be worked out.
  unfold unitsPerOne
  generalize binaryPlaces = places
  exact Nat.two_pow_pos places

namespace Magnitude

/-- Magnitudes are told apart by their counts of units. -/
theorem eq_of_units {first second : Magnitude} (same : first.units = second.units) :
    first = second := by
  cases first
  cases second
  cases same
  rfl

/-- Short whole numbers are in the finite range. -/
theorem whole_inRange {value : Nat} (short : value < 2 ^ 53) : value * unitsPerOne < unitLimit := by
  unfold unitLimit unitsPerOne rangePlaces
  generalize binaryPlaces = places
  have within : 53 + places ≤ 1024 + places := by omega
  generalize 1024 + places = range at *
  calc value * Nat.pow 2 places
      < 2 ^ 53 * 2 ^ places := Nat.mul_lt_mul_of_pos_right short (Nat.two_pow_pos places)
    _ = 2 ^ (53 + places) := (Nat.pow_add 2 53 places).symm
    _ ≤ Nat.pow 2 range := Nat.pow_le_pow_right two_pos within

/-- A whole number as a magnitude, if it is short enough to be written in full. -/
def whole (value : Nat) (short : value < 2 ^ 53) : Magnitude :=
  ⟨value * unitsPerOne, whole_inRange short, value, binaryPlaces, short, by unfold unitsPerOne; rfl⟩

@[simp] theorem units_whole {value : Nat} (short : value < 2 ^ 53) :
    (whole value short).units = value * unitsPerOne := rfl

/-- A positive whole number has a positive count of units. -/
theorem units_whole_pos {value : Nat} (short : value < 2 ^ 53) (positive : 0 < value) :
    0 < (whole value short).units := by
  rw [units_whole]
  exact Nat.mul_pos positive unitsPerOne_pos

/-- Nothing is nearest to nothing. -/
theorem nearestUnits_zero {denominator : Nat} (positive : 0 < denominator) :
    nearestUnits 0 denominator = 0 := by
  have nothing := zero.nearestUnits_units positive
  rwa [zero, Nat.zero_mul] at nothing

end Magnitude

namespace Binary64

variable {left right number : Binary64} {negative : Bool} {numerator denominator : Nat}
  {magnitude divisor : Magnitude}

/-- Within the finite range, a quotient is rounded to the nearest count. -/
theorem ofUnits_inRange (negative : Bool)
    (inRange : Magnitude.nearestUnits numerator denominator < unitLimit) :
    ofUnits negative numerator denominator =
      .finite negative ⟨_, inRange, Magnitude.nearestUnits_representable _ _⟩ := by
  unfold ofUnits Magnitude.nearest?
  rw [dif_pos inRange]

/-- A finite number is the nearest one to itself. -/
theorem ofUnits_units (negative : Bool) (magnitude : Magnitude) (positive : 0 < denominator) :
    ofUnits negative (magnitude.units * denominator) denominator = .finite negative magnitude := by
  have units := magnitude.nearestUnits_units positive
  have fits : Magnitude.nearestUnits (magnitude.units * denominator) denominator < unitLimit := by
    rw [units]
    exact magnitude.inRange
  rw [ofUnits_inRange negative fits]
  exact congrArg (finite negative) (Magnitude.eq_of_units units)

/-- Short whole numbers are represented as they are. -/
theorem ofNat_eq_whole {value : Nat} (short : value < 2 ^ 53) :
    ofNat value = .finite false (.whole value short) := by
  have exact := ofUnits_units false (.whole value short) Nat.one_pos
  rwa [Nat.mul_one] at exact

/-- The place of the number nearest to a quotient, that of infinity beyond the finite range. -/
theorem position_ofUnits (negative : Bool) (numerator denominator : Nat) :
    (ofUnits negative numerator denominator).position =
      some (signedCount negative
        (min (Magnitude.nearestUnits numerator denominator) unitLimit)) := by
  by_cases fits : Magnitude.nearestUnits numerator denominator < unitLimit
  · rw [ofUnits_inRange negative fits, Nat.min_eq_left (Nat.le_of_lt fits), position]
  · unfold ofUnits Magnitude.nearest?
    rw [dif_neg fits, Nat.min_eq_right (Nat.le_of_not_lt fits), position]

/-- Whether the left number is at most the right one. -/
def isAtMost (left right : Binary64) : Bool :=
  related (fun x y => decide (x ≤ y)) left right

/-- Numbers are compared by their places on the number line. -/
theorem isAtMost_iff :
    left.isAtMost right = true ↔
      ∃ x y, left.position = some x ∧ right.position = some y ∧ x ≤ y := by
  unfold isAtMost related
  cases left.position <;> cases right.position <;> simp

/-- One number is below another when its place is. -/
theorem isBelow_iff :
    left.isBelow right = true ↔
      ∃ x y, left.position = some x ∧ right.position = some y ∧ x < y := by
  unfold isBelow related
  cases left.position <;> cases right.position <;> simp

/-- What is below a number is at most as large. -/
theorem isAtMost_of_isBelow (below : left.isBelow right = true) : left.isAtMost right = true := by
  obtain ⟨x, y, placed, placedToo, less⟩ := isBelow_iff.mp below
  exact isAtMost_iff.mpr ⟨x, y, placed, placedToo, Int.le_of_lt less⟩

/-- What is below a number is below those that are at least as large. -/
theorem isBelow_of_isAtMost (below : number.isBelow left = true)
    (ordered : left.isAtMost right = true) : number.isBelow right = true := by
  obtain ⟨x, y, placed, placedToo, less⟩ := isBelow_iff.mp below
  obtain ⟨_, z, same, placedLast, atMost⟩ := isAtMost_iff.mp ordered
  rw [placedToo, Option.some.injEq] at same
  subst same
  exact isBelow_iff.mpr ⟨x, z, placed, placedLast, Int.lt_of_lt_of_le less atMost⟩

@[simp] theorem signedCount_false (count : Nat) : signedCount false count = count := rfl

@[simp] theorem signedCount_true (count : Nat) : signedCount true count = -count := rfl

/-- A finite number lies between the infinities. -/
theorem signedCount_bounds (negative : Bool) (magnitude : Magnitude) :
    -(unitLimit : Int) < signedCount negative magnitude.units ∧
      signedCount negative magnitude.units < unitLimit := by
  have range := magnitude.inRange
  cases negative <;> simp only [signedCount_false, signedCount_true] <;> omega

/-- What is a number has a place between those of the infinities. -/
theorem exists_position (known : number ≠ .notANumber) :
    ∃ place, number.position = some place ∧ -(unitLimit : Int) ≤ place ∧ place ≤ unitLimit := by
  cases number with
  | notANumber => exact absurd rfl known
  | infinite negative =>
    refine ⟨_, rfl, ?_⟩
    cases negative <;> simp only [signedCount_false, signedCount_true] <;> omega
  | finite negative magnitude =>
    obtain ⟨low, high⟩ := signedCount_bounds negative magnitude
    exact ⟨_, rfl, Int.le_of_lt low, Int.le_of_lt high⟩

/-- The lower infinity is at most any number. -/
theorem lowest_isAtMost (known : number ≠ .notANumber) :
    (infinite true).isAtMost number = true := by
  obtain ⟨place, placed, low, _⟩ := exists_position known
  exact isAtMost_iff.mpr ⟨_, place, rfl, placed, low⟩

/-- Any number is at most the upper infinity. -/
theorem isAtMost_highest (known : number ≠ .notANumber) :
    number.isAtMost (infinite false) = true := by
  obtain ⟨place, placed, _, high⟩ := exists_position known
  exact isAtMost_iff.mpr ⟨place, _, placed, rfl, high⟩

/-- Of two numbers, one is at most the other unless the other is below it. -/
theorem isAtMost_of_not_isBelow (known : left ≠ .notANumber) (knownToo : right ≠ .notANumber)
    (notBelow : left.isBelow right = false) : right.isAtMost left = true := by
  obtain ⟨x, placed, _⟩ := exists_position known
  obtain ⟨y, placedToo, _⟩ := exists_position knownToo
  refine isAtMost_iff.mpr ⟨y, x, placedToo, placed, ?_⟩
  by_contra above
  have below := isBelow_iff.mpr ⟨x, y, placed, placedToo, Int.not_le.mp above⟩
  rw [notBelow] at below
  cases below

/-- What is compared successfully is a number. -/
theorem ne_notANumber_of_isAtMost (ordered : left.isAtMost right = true) :
    left ≠ .notANumber ∧ right ≠ .notANumber := by
  obtain ⟨x, y, placed, placedToo, _⟩ := isAtMost_iff.mp ordered
  constructor <;> rintro rfl
  · cases placed
  · cases placedToo

/-- Only the upper infinity lies beyond the finite range. -/
theorem eq_highest {place : Int} (placed : number.position = some place)
    (beyond : (unitLimit : Int) ≤ place) : number = .infinite false := by
  have limit := Magnitude.unitLimit_pos
  cases number with
  | notANumber => cases placed
  | infinite negative =>
    cases placed
    cases negative with
    | false => rfl
    | true =>
      rw [signedCount_true] at beyond
      omega
  | finite negative magnitude =>
    cases placed
    have range := signedCount_bounds negative magnitude
    omega

/-- The reasons for numbers to be in order: an infinity at its end, or their counts of units. -/
inductive Ordered : Binary64 → Binary64 → Prop
  | lowest {number : Binary64} (known : number ≠ .notANumber) : Ordered (.infinite true) number
  | highest {number : Binary64} (known : number ≠ .notANumber) : Ordered number (.infinite false)
  | counted {negative other : Bool} {magnitude second : Magnitude}
      (counts : signedCount negative magnitude.units ≤ signedCount other second.units) :
      Ordered (.finite negative magnitude) (.finite other second)

/-- Numbers in order are so for a reason. -/
theorem Ordered.of_isAtMost (ordered : left.isAtMost right = true) : Ordered left right := by
  obtain ⟨known, knownToo⟩ := ne_notANumber_of_isAtMost ordered
  obtain ⟨x, y, placed, placedToo, below⟩ := isAtMost_iff.mp ordered
  by_cases top : (unitLimit : Int) ≤ y
  · rw [eq_highest placedToo top]
    exact .highest known
  · -- Below the upper infinity, the left number is finite unless it is the lower one.
    cases left with
    | notANumber => exact absurd rfl known
    | infinite negative =>
      cases negative with
      | true => exact .lowest knownToo
      | false =>
        cases placed
        exact absurd below (by rwa [signedCount_false])
    | finite negative magnitude =>
      cases placed
      have range := signedCount_bounds negative magnitude
      cases right with
      | notANumber => exact absurd rfl knownToo
      | infinite other =>
        cases placedToo
        cases other <;> simp only [signedCount_false, signedCount_true] at top below <;> omega
      | finite other second =>
        cases placedToo
        exact .counted below

/-- A finite number is divided by a positive one as their counts are. -/
theorem div_eq_ofUnits (negative : Bool) (magnitude : Magnitude) (positive : 0 < divisor.units) :
    (finite negative magnitude).div (.finite false divisor) =
      ofUnits negative (magnitude.units * unitsPerOne) divisor.units := by
  rw [div, if_neg (Nat.ne_of_gt positive), Bool.xor_false]

/-- What is rounded is a number. -/
theorem ofUnits_ne_notANumber (negative : Bool) (numerator denominator : Nat) :
    ofUnits negative numerator denominator ≠ .notANumber := by
  intro unknown
  have placed := position_ofUnits negative numerator denominator
  rw [unknown] at placed
  cases placed

/-- Whole numbers are numbers. -/
theorem ofNat_ne_notANumber (whole : Nat) : ofNat whole ≠ .notANumber :=
  ofUnits_ne_notANumber false _ _

/-- A number that is divided by a positive one stays a number. -/
theorem div_ne_notANumber (known : number ≠ .notANumber) (positive : 0 < divisor.units) :
    number.div (.finite false divisor) ≠ .notANumber := by
  cases number with
  | notANumber => exact absurd rfl known
  | infinite negative => exact Binary64.noConfusion
  | finite negative magnitude =>
    rw [div_eq_ofUnits negative magnitude positive]
    exact ofUnits_ne_notANumber _ _ _

/-- Signed counts are in the order of what an increasing function makes of them. -/
theorem signedCount_mono {f : Nat → Nat} (increasing : Monotone f) (origin : f 0 = 0)
    {negative other : Bool} {count second : Nat}
    (ordered : signedCount negative count ≤ signedCount other second) :
    signedCount negative (f count) ≤ signedCount other (f second) := by
  cases negative <;> cases other <;> simp only [signedCount_false, signedCount_true] at ordered ⊢
  · exact_mod_cast increasing (by omega : count ≤ second)
  · -- Both counts are zero, since one is no more than what the other is below zero.
    have zero : count = 0 := by omega
    have zeroToo : second = 0 := by omega
    rw [zero, zeroToo, origin]
    omega
  · omega
  · have larger := increasing (by omega : second ≤ count)
    omega

/-- Division by a positive number keeps the order of numbers. -/
theorem div_isAtMost_div (positive : 0 < divisor.units) (ordered : left.isAtMost right = true) :
    (left.div (.finite false divisor)).isAtMost (right.div (.finite false divisor)) = true := by
  cases Ordered.of_isAtMost ordered with
  | lowest known => exact lowest_isAtMost (div_ne_notANumber known positive)
  | highest known => exact isAtMost_highest (div_ne_notANumber known positive)
  | counted counts =>
    rename_i negative other magnitude second
    rw [div_eq_ofUnits _ _ positive, div_eq_ofUnits _ _ positive, isAtMost_iff]
    refine ⟨_, _, position_ofUnits _ _ _, position_ofUnits _ _ _, ?_⟩
    -- A count becomes the one nearest to the quotient, which a greater count does not lower.
    refine signedCount_mono (f := fun count =>
      min (Magnitude.nearestUnits (count * unitsPerOne) divisor.units) unitLimit) ?_ ?_ counts
    · intro count larger more
      refine min_le_min_right _ (Magnitude.nearestUnits_mono positive positive ?_)
      gcongr
    · simp only [Nat.zero_mul, Magnitude.nearestUnits_zero positive, Nat.zero_min]

/-- What is above zero has a positive place. -/
theorem position_pos (above : (zero false).isBelow number = true) :
    ∃ place, number.position = some place ∧ 0 < place := by
  obtain ⟨x, place, placedZero, placed, less⟩ := isBelow_iff.mp above
  have origin : x = 0 := (Option.some.inj placedZero).symm
  exact ⟨place, placed, origin ▸ less⟩

/-- The positive numbers: the upper infinity, and positive counts of units. -/
theorem isBelow_zero_iff :
    (zero false).isBelow number = true ↔
      number = .infinite false ∨
        ∃ magnitude : Magnitude, number = .finite false magnitude ∧ 0 < magnitude.units := by
  constructor
  · intro above
    obtain ⟨place, placed, less⟩ := position_pos above
    cases number with
    | notANumber => cases placed
    | infinite negative =>
      cases placed
      cases negative with
      | false => exact .inl rfl
      | true =>
        rw [signedCount_true] at less
        omega
    | finite negative magnitude =>
      cases placed
      cases negative with
      | false => exact .inr ⟨magnitude, rfl, Int.natCast_pos.mp less⟩
      | true =>
        rw [signedCount_true] at less
        omega
  · rintro (rfl | ⟨magnitude, rfl, counted⟩)
    · exact isBelow_iff.mpr ⟨0, _, rfl, rfl, Int.natCast_pos.mpr Magnitude.unitLimit_pos⟩
    · exact isBelow_iff.mpr ⟨0, _, rfl, rfl, Int.natCast_pos.mpr counted⟩

/-- Zero is at most what is rounded from a quotient without a minus sign. -/
theorem zero_isAtMost_ofUnits (numerator denominator : Nat) :
    (zero false).isAtMost (ofUnits false numerator denominator) = true := by
  refine isAtMost_iff.mpr ⟨0, _, rfl, position_ofUnits _ _ _, ?_⟩
  rw [signedCount_false]
  omega

/-- Quotients of a number without a minus sign fall as the divisor grows. -/
theorem div_isAtMost_div_left {smaller larger : Binary64} (magnitude : Magnitude)
    (positive : (zero false).isBelow smaller = true) (ordered : smaller.isAtMost larger = true) :
    ((finite false magnitude).div larger).isAtMost ((finite false magnitude).div smaller) =
      true := by
  rcases isBelow_zero_iff.mp positive with rfl | ⟨divisor, rfl, counted⟩
  · -- Nothing but infinity is at least infinity.
    cases Ordered.of_isAtMost ordered
    exact isAtMost_iff.mpr ⟨0, 0, rfl, rfl, Int.le_refl 0⟩
  · rw [div_eq_ofUnits false magnitude counted]
    cases Ordered.of_isAtMost ordered with
    | highest known => exact zero_isAtMost_ofUnits _ _
    | counted counts =>
      rename_i other second
      cases other with
      | true =>
        simp only [signedCount_false, signedCount_true] at counts
        omega
      | false =>
        rw [signedCount_false, signedCount_false, Int.ofNat_le] at counts
        have positiveToo := Nat.lt_of_lt_of_le counted counts
        rw [div_eq_ofUnits false magnitude positiveToo, isAtMost_iff]
        refine ⟨_, _, position_ofUnits _ _ _, position_ofUnits _ _ _, ?_⟩
        rw [signedCount_false, signedCount_false, Int.ofNat_le]
        refine min_le_min_right _ (Magnitude.nearestUnits_mono positiveToo counted ?_)
        exact div_le_div_of_nonneg_left (Nat.cast_nonneg _) (Nat.cast_pos.mpr counted)
          (Nat.cast_le.mpr counts)

/-- A positive number that is divided by itself is one. -/
theorem div_itself (positive : 0 < magnitude.units) :
    (finite false magnitude).div (.finite false magnitude) = ofNat 1 := by
  have exact := ofUnits_units false (.whole 1 (by decide)) positive
  rw [ofNat_eq_whole (by decide), ← exact, div_eq_ofUnits false magnitude positive]
  rw [Magnitude.units_whole, Nat.one_mul, Nat.mul_comm]

/-- Division by one changes nothing. -/
theorem div_ofNat_one (number : Binary64) : number.div (ofNat 1) = number := by
  rw [ofNat_eq_whole (by decide)]
  cases number with
  | notANumber => rfl
  | infinite negative => rw [div, Bool.xor_false]
  | finite negative magnitude =>
    rw [div_eq_ofUnits negative magnitude (Magnitude.units_whole_pos _ Nat.one_pos),
      Magnitude.units_whole, Nat.one_mul]
    exact ofUnits_units negative magnitude unitsPerOne_pos

/-- Division by a short whole number takes it out of its multiples. -/
theorem ofNat_mul_div {quotient divisor : Nat} (positive : 0 < divisor)
    (shortDivisor : divisor < 2 ^ 53) (short : quotient * divisor < 2 ^ 53) :
    (ofNat (quotient * divisor)).div (ofNat divisor) = ofNat quotient := by
  have shortQuotient : quotient < 2 ^ 53 :=
    Nat.lt_of_le_of_lt (Nat.le_mul_of_pos_right quotient positive) short
  have counted := Magnitude.units_whole_pos shortDivisor positive
  have exact := ofUnits_units false (.whole quotient shortQuotient) counted
  rw [ofNat_eq_whole short, ofNat_eq_whole shortDivisor, ofNat_eq_whole shortQuotient, ← exact,
    div_eq_ofUnits false _ counted]
  have regrouped : quotient * divisor * unitsPerOne * unitsPerOne =
      quotient * unitsPerOne * (divisor * unitsPerOne) := by ring
  rw [Magnitude.units_whole, Magnitude.units_whole, Magnitude.units_whole, regrouped]

end Binary64

end Unknowns
