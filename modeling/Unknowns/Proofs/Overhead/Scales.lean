import Unknowns.Binary64.Reading
import Unknowns.Overhead.Rate
import Unknowns.Proofs.Binary64.Shown

/-! Rates on their scales: what is displayed is in the order of the rates, and close to them. -/

namespace Unknowns

/-- The scales that rates are displayed on. -/
inductive Scale
  | ones
  | thousands
  | millions
deriving DecidableEq

namespace Scale

/-- What a displayed number is multiplied by. -/
def factor : Scale → Nat
  | .ones => 1
  | .thousands => 1000
  | .millions => 1000000

/-- The number of places behind the point. -/
def places : Scale → Nat
  | .ones => 0
  | .thousands => 2
  | .millions => 2

/-- The letter behind a displayed number. -/
def letter : Scale → String
  | .ones => ""
  | .thousands => "K"
  | .millions => "M"

/-- Factors are positive, and short enough to be numbers. -/
theorem factor_bounds (scale : Scale) : 0 < scale.factor ∧ scale.factor < 2 ^ 53 := by
  cases scale <;> decide

/-- What one in the last place that is displayed stands for. -/
def lastPlace (scale : Scale) : ℚ :=
  scale.factor / 10 ^ scale.places

/-- The scale of an exact value. -/
def of (value : ℚ) : Scale :=
  if 1000000 < value then .millions
  else if 1000 < value then .thousands
  else .ones

/-- Values up to one thousand are displayed as whole numbers. -/
theorem of_eq_ones {value : ℚ} (small : value ≤ 1000) : of value = .ones := by
  have smaller : ¬1000000 < value := not_lt.mpr (small.trans (by norm_num))
  rw [of, if_neg smaller, if_neg (not_lt.mpr small)]

/-- Only whole numbers may be less than what their scale counts in. -/
theorem eq_ones_or_factor_lt (value : ℚ) :
    of value = .ones ∨ ((of value).factor : ℚ) < value := by
  unfold of
  split
  · rename_i above
    exact .inr (by exact_mod_cast above)
  · split
    · rename_i above
      exact .inr (by exact_mod_cast above)
    · exact .inl rfl

end Scale

/-- What the text behind a number multiplies it by: a letter, or nothing. -/
def multiplier? (text : List Char) : Option ℚ :=
  match text with
  | [] => some 1
  | ['K'] => some 1000
  | ['M'] => some 1000000
  | _ => none

/-- The number that a text displays, with the letter behind it taken into account. -/
def displayed? (text : String) : Option ShownNumber := do
  let (number, rest) ← frontNumber? text.toList
  let factor ← multiplier? rest
  return number.times factor

example : displayed? "12.34K" = some (.fraction 12340) := by decide +kernel

example : displayed? "12.34Kx" = none := by decide +kernel

/-- Two texts display something, the first no more than the second. -/
def DisplayedInOrder (first second : Option ShownNumber) : Prop :=
  ∃ x y, first = some x ∧ second = some y ∧ x ≤ y

/-- What is displayed is in order when it is so by way of something between. -/
theorem DisplayedInOrder.trans {first second third : Option ShownNumber}
    (ordered : DisplayedInOrder first second) (orderedToo : DisplayedInOrder second third) :
    DisplayedInOrder first third := by
  obtain ⟨x, y, displayed, displayedToo, below⟩ := ordered
  obtain ⟨_, z, same, displayedLast, belowToo⟩ := orderedToo
  rw [displayedToo, Option.some.injEq] at same
  subst same
  exact ⟨x, z, displayed, displayedLast, below.trans belowToo⟩

/-- A way of displaying numbers that keeps their order. -/
def KeepsOrder (display : Binary64 → Option ShownNumber) : Prop :=
  ∀ left right : Binary64, left.isAtMost right = true →
    DisplayedInOrder (display left) (display right)

/-- Two ways that agree at a bound keep the order when one is taken up to it and one above it. -/
theorem KeepsOrder.above {upTo beyond : Binary64 → Option ShownNumber} {bound : Binary64}
    (keeps : KeepsOrder upTo) (keepsToo : KeepsOrder beyond) (known : bound ≠ .notANumber)
    (joined : upTo bound = beyond bound) :
    KeepsOrder fun number => if bound.isBelow number then beyond number else upTo number := by
  intro left right ordered
  by_cases above : bound.isBelow left = true
  · have aboveToo := Binary64.isBelow_of_isAtMost above ordered
    simp only [above, aboveToo, if_true]
    exact keepsToo left right ordered
  · by_cases aboveToo : bound.isBelow right = true
    · -- The bound lies between the two, and is displayed alike in both ways.
      have upToBound := Binary64.isAtMost_of_not_isBelow known
        (Binary64.ne_notANumber_of_isAtMost ordered).1 (Bool.eq_false_iff.mpr above)
      have first := keeps left bound upToBound
      have second := keepsToo bound right (Binary64.isAtMost_of_isBelow aboveToo)
      rw [joined] at first
      simp only [above, aboveToo, if_true]
      exact first.trans second
    · simp only [above, aboveToo]
      exact keeps left right ordered

namespace Rate

variable {left right : Rate}

/-- A rate as a number of the size that a scale displays. -/
def on (scale : Scale) (rate : Rate) : Rate :=
  rate.div (.ofNat scale.factor)

/-- The scale that a rate is displayed on. -/
def scale (rate : Rate) : Scale :=
  if million.isBelow rate then .millions
  else if thousand.isBelow rate then .thousands
  else .ones

/-- What a scale displays of a rate. -/
def displayedOn (scale : Scale) (rate : Rate) : Option ShownNumber :=
  ((rate.on scale).shown scale.places).map (ShownNumber.times scale.factor)

/-- The text of a rate is the number on its scale, with the letter of this behind it. -/
theorem text_eq (rate : Rate) :
    rate.text = (rate.on rate.scale).fixed rate.scale.places ++ rate.scale.letter := by
  unfold text scale
  split
  · rfl
  · split
    · rfl
    · rw [on, Scale.factor, Binary64.div_ofNat_one]
      exact (String.append_empty).symm

/-- The text of a rate is read as what its scale displays. -/
theorem displayed?_text (rate : Rate) : displayed? rate.text = rate.displayedOn rate.scale := by
  have letter : ∀ scale : Scale, EndsNumber scale.letter.toList ∧
      multiplier? scale.letter.toList = some (scale.factor : ℚ) := by
    intro scale
    cases scale <;> exact ⟨by decide, by simp [multiplier?, Scale.letter, Scale.factor]⟩
  obtain ⟨ended, known⟩ := letter rate.scale
  rw [displayed?, text_eq, String.toList_append, Binary64.frontNumber?_fixed _ _ ended, displayedOn]
  cases (rate.on rate.scale).shown rate.scale.places with
  | none => rfl
  | some number => simp only [Option.map_some, Option.bind_eq_bind, Option.bind_some, known,
      Option.pure_def]

/-- On one scale, what is displayed is in the order of the rates. -/
theorem displayedOn_keepsOrder (scale : Scale) : KeepsOrder (displayedOn scale) := by
  intro left right ordered
  obtain ⟨positive, short⟩ := scale.factor_bounds
  have scaled : (on scale left).isAtMost (on scale right) = true := by
    rw [on, on, Binary64.ofNat_eq_whole short]
    exact Binary64.div_isAtMost_div (Magnitude.units_whole_pos short positive) ordered
  obtain ⟨x, y, shown, shownToo, below⟩ := Binary64.shown_mono scale.places scaled
  refine ⟨x.times scale.factor, y.times scale.factor, ?_, ?_, ?_⟩
  · rw [displayedOn, shown, Option.map_some]
  · rw [displayedOn, shownToo, Option.map_some]
  · exact ShownNumber.times_mono (Nat.cast_nonneg _) below

/-- Multiples of what a scale counts in are displayed as they are. -/
theorem displayedOn_ofNat (scale : Scale) (number : Nat) (short : number < 2 ^ 53)
    (multiple : scale.factor ∣ number) :
    displayedOn scale (.ofNat number) = some (.fraction number) := by
  obtain ⟨positive, shortFactor⟩ := scale.factor_bounds
  obtain ⟨count, rfl⟩ := multiple
  rw [Nat.mul_comm] at short ⊢
  have shortCount : count < 2 ^ 53 :=
    Nat.lt_of_le_of_lt (Nat.le_mul_of_pos_right count positive) short
  rw [displayedOn, on, Binary64.ofNat_mul_div positive shortFactor short,
    Binary64.shown_ofNat shortCount, Nat.cast_mul]
  rfl

/-- The text of a rate is displayed on one scale up to each bound, and on the next above it. -/
theorem displayed?_text_bounds (rate : Rate) :
    displayed? rate.text =
      if million.isBelow rate then displayedOn .millions rate
      else if thousand.isBelow rate then displayedOn .thousands rate
      else displayedOn .ones rate := by
  rw [displayed?_text, scale]
  split
  · rfl
  · split <;> rfl

/-- What the texts of rates display is in the order of the rates, also across the scales. -/
theorem text_inOrder (ordered : left.isAtMost right = true) :
    DisplayedInOrder (displayed? left.text) (displayed? right.text) := by
  -- Where two scales meet, the bound is displayed alike on both.
  have atThousand : displayedOn .ones thousand = displayedOn .thousands thousand := by
    rw [thousand, displayedOn_ofNat .ones 1000 (by decide) (by decide),
      displayedOn_ofNat .thousands 1000 (by decide) (by decide)]
  have atMillion : displayedOn .thousands million = displayedOn .millions million := by
    rw [million, displayedOn_ofNat .thousands 1000000 (by decide) (by decide),
      displayedOn_ofNat .millions 1000000 (by decide) (by decide)]
  have known : thousand ≠ .notANumber := Binary64.ofNat_ne_notANumber 1000
  have knownToo : million ≠ .notANumber := Binary64.ofNat_ne_notANumber 1000000
  have between : thousand.isBelow million = true := by decide +kernel
  -- The scales are put together one bound at a time.
  have upToMillion := (displayedOn_keepsOrder .ones).above (displayedOn_keepsOrder .thousands)
    known atThousand
  have everywhere := upToMillion.above (displayedOn_keepsOrder .millions) knownToo
    (by rw [if_pos between, atMillion])
  rw [displayed?_text_bounds, displayed?_text_bounds]
  exact everywhere left right ordered

/-- Two rates on either side of the first bound display one thousand both. -/
theorem text_inOrder_at_thousand :
    (Binary64.ofDecimal false 9996 (-1)).isAtMost (.ofDecimal false 10000001 (-4)) = true ∧
      text (.ofDecimal false 9996 (-1)) = "1000" ∧
      text (.ofDecimal false 10000001 (-4)) = "1.00K" ∧
      DisplayedInOrder (displayed? (text (.ofDecimal false 9996 (-1))))
        (displayed? (text (.ofDecimal false 10000001 (-4)))) := by
  have ordered : (Binary64.ofDecimal false 9996 (-1)).isAtMost
      (.ofDecimal false 10000001 (-4)) = true := by decide +kernel
  exact ⟨ordered, by decide +kernel, by decide +kernel, text_inOrder ordered⟩

variable (negative : Bool) (magnitude : Magnitude)

/-- Without a scale, a finite rate is displayed as a whole number. -/
theorem displayedOn_ones :
    displayedOn .ones (.finite negative magnitude) =
      some (.fraction (Binary64.signedCount negative (magnitude.inPlaces 0))) := by
  rw [displayedOn, on, Scale.factor, Binary64.div_ofNat_one, Scale.places, Binary64.shown,
    Option.map_some, ShownNumber.times_fraction, pow_zero, div_one, Nat.cast_one, mul_one]

/-- A finite rate is displayed on the scale of its exact value. -/
theorem scale_finite :
    scale (.finite negative magnitude) = .of (signedFraction negative magnitude.value) := by
  have aboveMillion : Binary64.isBelow million (.finite negative magnitude) = true ↔
      1000000 < signedFraction negative magnitude.value := by
    rw [million, Binary64.ofNat_isBelow_finite (by decide), Nat.cast_ofNat]
  have aboveThousand : Binary64.isBelow thousand (.finite negative magnitude) = true ↔
      1000 < signedFraction negative magnitude.value := by
    rw [thousand, Binary64.ofNat_isBelow_finite (by decide), Nat.cast_ofNat]
  simp only [scale, Scale.of, aboveMillion, aboveThousand]

/-- On its scale, a finite rate is as large as the exact quotient, up to one rounding. -/
theorem on_finite {scale : Scale}
    (fits : scale = .ones ∨ (scale.factor : ℚ) < signedFraction negative magnitude.value) :
    ∃ quotient : Magnitude,
      on scale (.finite negative magnitude) = .finite negative quotient ∧
        |quotient.value - magnitude.value / scale.factor| ≤
          magnitude.value / scale.factor / 2 ^ 53 := by
  rcases fits with rfl | above
  · refine ⟨magnitude, Binary64.div_ofNat_one _, ?_⟩
    rw [Scale.factor, Nat.cast_one, div_one, sub_self, abs_zero]
    exact div_nonneg magnitude.value_nonneg (by positivity)
  · obtain ⟨positive, short⟩ := scale.factor_bounds
    have large : (scale.factor : ℚ) ≤ magnitude.value := by
      have counted : (0 : ℚ) < scale.factor := Nat.cast_pos.mpr positive
      have nonnegative := magnitude.value_nonneg
      cases negative with
      | false => exact above.le
      | true =>
        rw [signedFraction, if_pos rfl] at above
        linarith
    exact Binary64.div_ofNat_near negative positive short large

end Rate

/-- A text displays a value plainly, and as closely as the scale of the value allows. -/
structure Displays (text : String) (negative : Bool) (value : ℚ) : Prop where
  plain : WritesPlainly text negative (Scale.of value).places (Scale.of value).letter
  near : ∃ shown : ℚ, displayed? text = some (.fraction shown) ∧
    |shown - value| ≤ (Scale.of value).lastPlace / 2 + |value| / 2 ^ 53
  whole : value ≤ 1000 → ∃ shown : ℤ, displayed? text = some (.fraction shown) ∧
    IsNearestEven value shown

/-- A division and the rounding of its places together miss a value by what each of them misses. -/
theorem roundings_near {value scaled count factor places : ℚ} (counted : 0 < factor)
    (unit : 0 < places) (divided : |scaled - value / factor| ≤ |value| / factor / 2 ^ 53)
    (rounded : |scaled * places - count| ≤ 1 / 2) :
    |count / places * factor - value| ≤ factor / places / 2 + |value| / 2 ^ 53 := by
  -- The last place is rounded to after the division, so both errors are multiplied back.
  have errors : count / places * factor - value =
      (scaled - value / factor) * factor - (scaled * places - count) * (factor / places) := by
    field_simp
    ring
  calc |count / places * factor - value|
      = |(scaled - value / factor) * factor - (scaled * places - count) * (factor / places)| := by
        rw [errors]
    _ ≤ |scaled - value / factor| * factor + |scaled * places - count| * (factor / places) := by
        refine (abs_sub _ _).trans_eq ?_
        rw [abs_mul, abs_mul, abs_of_pos counted, abs_of_pos (div_pos counted unit)]
    _ ≤ |value| / factor / 2 ^ 53 * factor + 1 / 2 * (factor / places) := by gcongr
    _ = factor / places / 2 + |value| / 2 ^ 53 := by
        field_simp
        ring

/-- What is displayed of a number is off by half of the last place, and by what the number is. -/
theorem displayed_near (scale : Scale) (negative : Bool) {magnitude quotient : Magnitude}
    (near : |quotient.value - magnitude.value / scale.factor| ≤
      magnitude.value / scale.factor / 2 ^ 53) :
    |(Binary64.signedCount negative (quotient.inPlaces scale.places) : ℚ) / 10 ^ scale.places *
        scale.factor - signedFraction negative magnitude.value| ≤
      scale.lastPlace / 2 + |signedFraction negative magnitude.value| / 2 ^ 53 := by
  have divided : |signedFraction negative quotient.value -
        signedFraction negative magnitude.value / scale.factor| ≤
      |signedFraction negative magnitude.value| / scale.factor / 2 ^ 53 := by
    rwa [← signedFraction_div, abs_signedFraction_sub, abs_signedFraction,
      abs_of_nonneg magnitude.value_nonneg]
  exact roundings_near (Nat.cast_pos.mpr scale.factor_bounds.1) (by positivity) divided
    (quotient.signedPlaces_isNearestEven negative scale.places).near

/-- The text of a finite rate displays its exact value. -/
theorem Rate.text_displays (negative : Bool) (magnitude : Magnitude) :
    Displays (text (.finite negative magnitude)) negative
      (signedFraction negative magnitude.value) := by
  have displayed := displayed?_text (.finite negative magnitude)
  have written := text_eq (.finite negative magnitude)
  rw [scale_finite] at displayed written
  -- On its scale the number is the exact quotient but for one rounding, and its places are another.
  have fits := Scale.eq_ones_or_factor_lt (signedFraction negative magnitude.value)
  obtain ⟨quotient, onScale, near⟩ := on_finite negative magnitude fits
  rw [displayedOn, onScale, Binary64.shown, Option.map_some] at displayed
  rw [onScale] at written
  constructor
  · rw [written]
    exact writesPlainly_fixed _ _ _ _
  · exact ⟨_, displayed, displayed_near _ negative near⟩
  · intro small
    have nearest := magnitude.signedPlaces_isNearestEven negative 0
    rw [pow_zero, mul_one] at nearest
    refine ⟨_, ?_, nearest⟩
    rw [displayed?_text, scale_finite, Scale.of_eq_ones small, displayedOn_ones]

end Unknowns
