import Mathlib.Algebra.Order.Monoid.WithTop
import Unknowns.Binary64.Fixed
import Unknowns.Binary64.Numeral
import Unknowns.Proofs.Binary64.Exact

/-! Texts of numbers are read back as what they show, which is in the order of the numbers. -/

namespace Unknowns

/-- What a text of a number shows: a fraction, or one of the infinities around all of these. -/
abbrev ShownNumber := WithBot (WithTop ℚ)

/-- A fraction that is shown. -/
def ShownNumber.fraction (value : ℚ) : ShownNumber :=
  WithBot.some (WithTop.some value)

/-- Fractions are shown in their order. -/
theorem ShownNumber.fraction_le_fraction {value other : ℚ} :
    fraction value ≤ fraction other ↔ value ≤ other := by
  unfold fraction
  rw [WithBot.coe_le_coe, WithTop.coe_le_coe]

/-- A multiple of what is shown. -/
def ShownNumber.times (factor : ℚ) : ShownNumber → ShownNumber :=
  WithBot.map (WithTop.map (· * factor))

/-- A multiple of a fraction is the fraction's product. -/
theorem ShownNumber.times_fraction (factor value : ℚ) :
    (fraction value).times factor = fraction (value * factor) := rfl

/-- An infinity as it is shown. -/
def shownInfinity (negative : Bool) : ShownNumber :=
  if negative then ⊥ else ⊤

/-- The fraction that digits in front of a point and behind it write. -/
def decimalValue (whole places : List Char) : ℚ :=
  Nat.ofDigitChars 10 (whole ++ places) 0 / 10 ^ places.length

/-- The digits behind a point, none when there is no point, and what follows them. -/
def splitPlaces : List Char → List Char × List Char
  | '.' :: rest => (rest.takeWhile Char.isDigit, rest.dropWhile Char.isDigit)
  | text => ([], text)

/-- The number at the front of a text, and what follows it. -/
def frontNumber? (text : List Char) : Option (ShownNumber × List Char) :=
  let (negative, unsigned) := splitMinus text
  match unsigned with
  | 'i' :: 'n' :: 'f' :: rest => some (shownInfinity negative, rest)
  | _ =>
    let whole := unsigned.takeWhile Char.isDigit
    let (places, rest) := splitPlaces (unsigned.dropWhile Char.isDigit)
    -- A point needs digits in front of it.
    if whole = [] then none
    else some (.fraction (signedFraction negative (decimalValue whole places)), rest)

/-- What follows a number does not go on with it. -/
def EndsNumber (rest : List Char) : Prop :=
  rest.head?.all fun c => !c.isDigit && c != '.'

instance (rest : List Char) : Decidable (EndsNumber rest) :=
  inferInstanceAs (Decidable (_ = true))

/-- What ends a number has no digits at its front. -/
theorem EndsNumber.split {rest : List Char} (ended : EndsNumber rest) :
    rest.takeWhile Char.isDigit = [] ∧ rest.dropWhile Char.isDigit = rest ∧
      splitPlaces rest = ([], rest) := by
  cases rest with
  | nil => exact ⟨rfl, rfl, rfl⟩
  | cons first later =>
    have other : first.isDigit = false ∧ first ≠ '.' := by simpa [EndsNumber] using ended
    refine ⟨by simp [other.1], by simp [other.1], ?_⟩
    unfold splitPlaces
    split
    · rename_i same
      cases same
      exact absurd rfl other.2
    · rfl

/-- A whole number in decimal digits, none of which is superfluous. -/
structure IsPlainWhole (digits : List Char) : Prop where
  decimal : ∀ c ∈ digits, c.isDigit = true
  present : digits ≠ []
  plain : digits.head? = some '0' → digits = ['0']

/-- Counts are written without superfluous zeros. -/
theorem isPlainWhole_toDigits (count : Nat) : IsPlainWhole (Nat.toDigits 10 count) where
  decimal _ member := Nat.isDigit_of_mem_toDigits (by decide) (by decide) member
  present := Nat.toDigits_ne_nil
  plain := by
    -- The first digit is that of a smaller count, until a single digit is left.
    induction count using Nat.strongRecOn with
    | ind count ih =>
      rw [Nat.toDigits_eq_if (by decide)]
      split
      · intro first
        rw [List.head?_cons] at first
        rw [Option.some.inj first]
      · rename_i longer
        intro first
        rw [List.head?_append_of_ne_nil _ Nat.toDigits_ne_nil] at first
        have single := ih (count / 10) (by omega) first
        have zero : Nat.ofDigitChars 10 (Nat.toDigits 10 (count / 10)) 0 = 0 := by
          rw [single]
          decide
        rw [Nat.ofDigitChars_ten_toDigits] at zero
        omega

/-- The digits of a text that is filled up with zeros. -/
theorem toList_paddedDigits (width value : Nat) :
    (paddedDigits width value).toList =
      List.replicate (width - (Nat.toDigits 10 value).length) '0' ++ Nat.toDigits 10 value := by
  have length : (toString value).length = (Nat.toDigits 10 value).length := by
    rw [← String.length_toList, Nat.toString_eq_repr, Nat.toList_repr]
  rw [paddedDigits]
  simp only [length, String.toList_append, String.toList_ofList]
  rw [Nat.toString_eq_repr, Nat.toList_repr]

/-- Leading zeros fill a text up to its width. -/
theorem length_paddedDigits {width value : Nat} (present : 0 < width) (fits : value < 10 ^ width) :
    (paddedDigits width value).toList.length = width := by
  have short := (Nat.length_toDigits_le_iff (by decide) present).mpr fits
  rw [toList_paddedDigits, List.length_append, List.length_replicate]
  omega

/-- Leading zeros are digits as well. -/
theorem isDigit_of_mem_paddedDigits {width value : Nat} {c : Char}
    (member : c ∈ (paddedDigits width value).toList) : c.isDigit = true := by
  rw [toList_paddedDigits, List.mem_append] at member
  rcases member with zero | digit
  · rw [List.eq_of_mem_replicate zero]
    decide
  · exact Nat.isDigit_of_mem_toDigits (by decide) (by decide) digit

/-- Leading zeros do not change the value. -/
theorem ofDigitChars_paddedDigits (width value : Nat) :
    Nat.ofDigitChars 10 (paddedDigits width value).toList 0 = value := by
  rw [toList_paddedDigits, Nat.ofDigitChars_append, Nat.ofDigitChars_replicate_zero, Nat.mul_zero,
    Nat.ofDigitChars_ten_toDigits]

/-- The places behind a point, with the point itself, if there are any. -/
def pointed (places : List Char) : List Char :=
  if places = [] then [] else '.' :: places

/-- The digits of a count of last places that stand behind the point. -/
def placesDigits (places count : Nat) : List Char :=
  if places = 0 then [] else (paddedDigits places (count % 10 ^ places)).toList

/-- Every place has one digit. -/
theorem length_placesDigits (places count : Nat) : (placesDigits places count).length = places := by
  unfold placesDigits
  split
  · rename_i none
    rw [none, List.length_nil]
  · rename_i present
    exact length_paddedDigits (Nat.pos_of_ne_zero present) (Nat.mod_lt count (by positivity))

/-- Nothing but digits stands behind the point. -/
theorem isDigit_of_mem_placesDigits {places count : Nat} {c : Char}
    (member : c ∈ placesDigits places count) : c.isDigit = true := by
  unfold placesDigits at member
  split at member
  · cases member
  · exact isDigit_of_mem_paddedDigits member

/-- A count of last places is written as whole digits, with the places behind them. -/
theorem toList_placedDigits (places count : Nat) :
    (placedDigits places count).toList =
      Nat.toDigits 10 (count / 10 ^ places) ++ pointed (placesDigits places count) := by
  by_cases none : places = 0
  · rw [placedDigits, if_pos none, placesDigits, if_pos none, none, Nat.pow_zero, Nat.div_one,
      Nat.toString_eq_repr, Nat.toList_repr]
    exact (List.append_nil _).symm
  · have present : placesDigits places count ≠ [] := by
      rw [← List.length_pos_iff, length_placesDigits]
      exact Nat.pos_of_ne_zero none
    rw [pointed, if_neg present, placedDigits, if_neg none, placesDigits, if_neg none]
    simp only [String.toList_append, Nat.toString_eq_repr, Nat.toList_repr, Nat.pow_eq,
      List.append_assoc]
    rfl

/-- The places behind a point are read as they were written. -/
theorem splitPlaces_pointed {places rest : List Char} (decimal : ∀ c ∈ places, c.isDigit = true)
    (ended : EndsNumber rest) : splitPlaces (pointed places ++ rest) = (places, rest) := by
  obtain ⟨none, all, ends⟩ := ended.split
  unfold pointed
  split
  · rename_i empty
    rw [empty, List.nil_append, ends]
  · rw [List.cons_append, splitPlaces, List.takeWhile_append_of_pos decimal,
      List.dropWhile_append_of_pos decimal, none, all, List.append_nil]

/-- The whole digits and the places of a count write the count, in parts of the last place. -/
theorem decimalValue_placesDigits (places count : Nat) :
    decimalValue (Nat.toDigits 10 (count / 10 ^ places)) (placesDigits places count) =
      count / 10 ^ places := by
  have behind : Nat.ofDigitChars 10 (placesDigits places count) 0 = count % 10 ^ places := by
    unfold placesDigits
    split
    · rename_i none
      rw [none, Nat.pow_zero, Nat.mod_one]
      rfl
    · exact ofDigitChars_paddedDigits _ _
  rw [decimalValue, Nat.ofDigitChars_append, Nat.ofDigitChars_ten_toDigits,
    Nat.ofDigitChars_eq_ofDigitChars_zero, length_placesDigits, behind, Nat.div_add_mod]

/-- A text consists of a sign, whole digits, a fixed number of places, and a letter. -/
def WritesPlainly (text : String) (negative : Bool) (places : Nat) (letter : String) : Prop :=
  ∃ whole behind : List Char,
    text.toList = (minusSign negative).toList ++ (whole ++ (pointed behind ++ letter.toList)) ∧
      IsPlainWhole whole ∧ (∀ c ∈ behind, c.isDigit = true) ∧ behind.length = places

/-- Finite numbers are written plainly, however many digits they have. -/
theorem writesPlainly_fixed (places : Nat) (negative : Bool) (magnitude : Magnitude)
    (letter : String) :
    WritesPlainly ((Binary64.finite negative magnitude).fixed places ++ letter) negative places
      letter := by
  refine ⟨Nat.toDigits 10 (magnitude.inPlaces places / 10 ^ places),
    placesDigits places (magnitude.inPlaces places), ?_, isPlainWhole_toDigits _,
    fun _ => isDigit_of_mem_placesDigits, length_placesDigits _ _⟩
  rw [Binary64.fixed, String.toList_append, String.toList_append, toList_placedDigits,
    List.append_assoc, List.append_assoc]

/-- A number that is written with a sign and whole digits is read up to where it ends. -/
theorem frontNumber?_digits (negative : Bool) {whole following : List Char}
    (written : IsPlainWhole whole) (ended : following.takeWhile Char.isDigit = []) :
    frontNumber? ((minusSign negative).toList ++ (whole ++ following)) =
      some (.fraction (signedFraction negative (decimalValue whole (splitPlaces following).1)),
        (splitPlaces following).2) := by
  obtain ⟨first, later, rfl⟩ := List.exists_cons_of_ne_nil written.present
  have digit := written.decimal first List.mem_cons_self
  -- The first digit is neither a sign nor the beginning of a word.
  have noSign : first ≠ '-' := by
    rintro rfl
    cases digit
  have noWord : first ≠ 'i' := by
    rintro rfl
    cases digit
  have stays : following.dropWhile Char.isDigit = following := by
    have parts := List.takeWhile_append_dropWhile (p := Char.isDigit) (l := following)
    rwa [ended, List.nil_append] at parts
  have signed : splitMinus ((minusSign negative).toList ++ (first :: later ++ following)) =
      (negative, first :: later ++ following) := by
    cases negative with
    | true => rfl
    | false =>
      have sign : (minusSign false).toList = [] := rfl
      rw [sign, List.nil_append, List.cons_append, splitMinus]
      exact fun rest same => noSign (List.cons.inj same).1
  unfold frontNumber?
  rw [signed]
  simp only
  split
  · rename_i same
    exact absurd (List.cons.inj same).1 noWord
  · rw [List.takeWhile_append_of_pos written.decimal, List.dropWhile_append_of_pos written.decimal,
      ended, stays, List.append_nil]
    simp

namespace Binary64

/-- What the text of a number with fixed places shows, if it is the text of a number. -/
def shown (places : Nat) : Binary64 → Option ShownNumber
  | .notANumber => none
  | .infinite negative => some (shownInfinity negative)
  | .finite negative magnitude =>
    some (.fraction (signedCount negative (magnitude.inPlaces places) / 10 ^ places))

/-- A text with fixed places is read as what it shows. -/
theorem frontNumber?_fixed (places : Nat) (number : Binary64) {rest : List Char}
    (ended : EndsNumber rest) :
    frontNumber? ((number.fixed places).toList ++ rest) =
      (number.shown places).map (·, rest) := by
  cases number with
  | notANumber =>
    have word : ("NaN" : String).toList = ['N', 'a', 'N'] := by decide
    rw [fixed, word]
    rfl
  | infinite negative =>
    have word : (minusSign negative ++ "inf").toList =
        (minusSign negative).toList ++ ['i', 'n', 'f'] := by
      rw [String.toList_append]
      decide +revert
    rw [fixed, word]
    cases negative <;> rfl
  | finite negative magnitude =>
    have following : (pointed (placesDigits places (magnitude.inPlaces places)) ++ rest).takeWhile
        Char.isDigit = [] := by
      unfold pointed
      split
      · exact ended.split.1
      · rfl
    rw [fixed, String.toList_append, toList_placedDigits, List.append_assoc, List.append_assoc,
      frontNumber?_digits negative (isPlainWhole_toDigits _) following,
      splitPlaces_pointed (fun _ => isDigit_of_mem_placesDigits) ended, decimalValue_placesDigits,
      shown, Option.map_some, cast_signedCount, signedFraction_div]

end Binary64

namespace Magnitude

/-- The places of a magnitude are the nearest ones. -/
theorem inPlaces_isNearestEven (magnitude : Magnitude) (places : Nat) :
    IsNearestEven (magnitude.value * 10 ^ places) (magnitude.inPlaces places : Nat) := by
  have nearest := roundedQuotient_isNearestEven (magnitude.units * Nat.pow 10 places)
    unitsPerOne_pos
  have scaled : ((magnitude.units * Nat.pow 10 places : Nat) : ℚ) / unitsPerOne =
      magnitude.value * 10 ^ places := by
    rw [value, Nat.pow_eq, Nat.cast_mul, Nat.cast_pow, Nat.cast_ofNat, mul_div_right_comm]
  rwa [scaled] at nearest

/-- The places of a number are the nearest ones, on both sides of zero. -/
theorem signedPlaces_isNearestEven (negative : Bool) (magnitude : Magnitude) (places : Nat) :
    IsNearestEven (signedFraction negative magnitude.value * 10 ^ places)
      (Binary64.signedCount negative (magnitude.inPlaces places)) := by
  have nearest := magnitude.inPlaces_isNearestEven places
  rw [← signedFraction_mul]
  cases negative with
  | false => exact nearest
  | true => exact nearest.neg

/-- Greater magnitudes have no fewer places. -/
theorem inPlaces_mono (places : Nat) :
    Monotone fun units => roundedQuotient (units * Nat.pow 10 places) unitsPerOne := by
  intro units more ordered
  refine roundedQuotient_mono unitsPerOne_pos unitsPerOne_pos ?_
  refine div_le_div_of_nonneg_right ?_ (Nat.cast_nonneg _)
  exact Nat.cast_le.mpr (Nat.mul_le_mul_right _ ordered)

/-- Whole numbers need no rounding. -/
theorem inPlaces_whole {value : Nat} (short : value < 2 ^ 53) (places : Nat) :
    (whole value short).inPlaces places = value * 10 ^ places := by
  have exact := roundedQuotient_mul (value * 10 ^ places) unitsPerOne unitsPerOne_pos
  rw [Nat.mul_right_comm] at exact
  exact exact

end Magnitude

namespace Binary64

/-- What texts with the same places show is in the order of the numbers. -/
theorem shown_mono (places : Nat) {left right : Binary64} (ordered : left.isAtMost right = true) :
    ∃ x y, left.shown places = some x ∧ right.shown places = some y ∧ x ≤ y := by
  cases Ordered.of_isAtMost ordered with
  | lowest known =>
    cases right with
    | notANumber => exact absurd rfl known
    | _ => exact ⟨_, _, rfl, rfl, bot_le⟩
  | highest known =>
    cases left with
    | notANumber => exact absurd rfl known
    | _ => exact ⟨_, _, rfl, rfl, le_top⟩
  | counted counts =>
    refine ⟨_, _, rfl, rfl, ?_⟩
    have origin : roundedQuotient (0 * Nat.pow 10 places) unitsPerOne = 0 := by
      have nothing := roundedQuotient_mul 0 unitsPerOne unitsPerOne_pos
      rwa [Nat.zero_mul] at nothing ⊢
    have shownCounts := signedCount_mono (Magnitude.inPlaces_mono places) origin counts
    rw [ShownNumber.fraction_le_fraction]
    refine div_le_div_of_nonneg_right ?_ (by positivity)
    exact Int.cast_le.mpr shownCounts

/-- Whole numbers are shown as they are. -/
theorem shown_ofNat {value : Nat} (short : value < 2 ^ 53) (places : Nat) :
    (ofNat value).shown places = some (.fraction value) := by
  have exact : (((value * 10 ^ places : Nat) : ℤ) : ℚ) / 10 ^ places = value := by
    push_cast
    rw [mul_div_cancel_right₀ _ (by positivity)]
  rw [ofNat_eq_whole short, shown, Magnitude.inPlaces_whole short, signedCount_false, exact]

end Binary64

/-- Multiples are in the order of what is multiplied. -/
theorem ShownNumber.times_mono {factor : ℚ} (positive : 0 ≤ factor) :
    Monotone (ShownNumber.times factor) := by
  rw [ShownNumber.times, WithBot.monotone_map_iff, WithTop.monotone_map_iff]
  exact fun _ _ ordered => mul_le_mul_of_nonneg_right ordered positive

end Unknowns
