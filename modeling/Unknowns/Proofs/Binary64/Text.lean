import Unknowns.Binary64.Fixed

/-! Numbers are written in letters, digits, points and signs, whatever their values are. -/

namespace Unknowns

/-- Whether a character is a letter, a digit, or one of the signs beside these in shown numbers. -/
def isNumberLetter (c : Char) : Bool :=
  c.isAlphanum || c == '.' || c == '-' || c == '*'

/-- A text with none but the letters of numbers. -/
def InNumberLetters (text : String) : Prop :=
  text.toList.all isNumberLetter = true

instance (text : String) : Decidable (InNumberLetters text) :=
  inferInstanceAs (Decidable (_ = true))

/-- Two texts in the letters of numbers are one when they are put together. -/
theorem InNumberLetters.append {first second : String} (left : InNumberLetters first)
    (right : InNumberLetters second) : InNumberLetters (first ++ second) := by
  rw [InNumberLetters, String.toList_append, List.all_append, left, right]
  rfl

/-- A text in the letters of numbers that has more to it than signs. -/
structure ShowsNumber (text : String) : Prop where
  letters : InNumberLetters text
  more : text.toList.any Char.isAlphanum = true

namespace ShowsNumber

variable {text : String}

/-- A number goes on showing when more letters of numbers follow it. -/
theorem append {back : String} (shows : ShowsNumber text) (behind : InNumberLetters back) :
    ShowsNumber (text ++ back) := by
  refine ⟨shows.letters.append behind, ?_⟩
  -- What made it more than signs is still there.
  rw [String.toList_append, List.any_append, shows.more, Bool.true_or]

/-- So it does when they stand in front of it. -/
theorem behind {front : String} (shows : ShowsNumber text) (before : InNumberLetters front) :
    ShowsNumber (front ++ text) := by
  refine ⟨before.append shows.letters, ?_⟩
  rw [String.toList_append, List.any_append, shows.more, Bool.or_true]

/-- Other signs are none of its letters. -/
theorem not_mem (shows : ShowsNumber text) {c : Char} (other : isNumberLetter c = false) :
    c ∉ text.toList := by
  intro member
  have letter : isNumberLetter c = true := List.all_eq_true.mp shows.letters c member
  rw [other] at letter
  cases letter

/-- It is neither a sign alone nor the mark of something that is missing. -/
theorem ne_marks (shows : ShowsNumber text) : text ≠ "N/A" ∧ text ≠ "-" := by
  constructor
  · -- The mark has a slash in it, which no number has.
    rintro rfl
    exact shows.not_mem (c := '/') (by decide) (by decide)
  · -- A sign alone has no letter or digit in it.
    rintro rfl
    exact absurd shows.more (by decide)

end ShowsNumber

/-- The decimal digits of a count show a number. -/
theorem showsNumber_toString (value : Nat) : ShowsNumber (toString value) := by
  have digits : ∀ c ∈ Nat.toDigits 10 value, c.isAlphanum = true := by
    intro c member
    have digit : c.isDigit = true := Nat.isDigit_of_mem_toDigits (by omega) (by omega) member
    rw [Char.isAlphanum, digit, Bool.or_true]
  have written : (toString value).toList = Nat.toDigits 10 value := by
    rw [Nat.toString_eq_repr, Nat.toList_repr]
  -- There is at least one digit, and there is nothing else.
  obtain ⟨c, member⟩ := List.exists_mem_of_ne_nil _ (Nat.toDigits_ne_nil (n := value) (b := 10))
  refine ⟨?_, ?_⟩
  · rw [InNumberLetters, written, List.all_eq_true]
    intro other listed
    rw [isNumberLetter, digits other listed]
    rfl
  · rw [written, List.any_eq_true]
    exact ⟨c, member, digits c member⟩

/-- Leading zeros are digits as well. -/
theorem inNumberLetters_paddedDigits (width value : Nat) :
    InNumberLetters (paddedDigits width value) := by
  refine InNumberLetters.append ?_ (showsNumber_toString value).letters
  rw [InNumberLetters, String.toList_ofList, List.all_eq_true]
  intro c member
  rw [List.eq_of_mem_replicate member]
  decide

/-- A count of last places shows a number, with its point or without one. -/
theorem showsNumber_placedDigits (places count : Nat) :
    ShowsNumber (placedDigits places count) := by
  unfold placedDigits
  split
  · exact showsNumber_toString count
  · -- A whole number comes first, and what follows it has the right letters.
    have point : InNumberLetters "." := by decide
    have whole := showsNumber_toString (count / Nat.pow 10 places)
    exact (whole.append point).append
      (inNumberLetters_paddedDigits places (count % Nat.pow 10 places))

/-- A number that is written with fixed places shows one, finite or not. -/
theorem Binary64.showsNumber_fixed (places : Nat) (number : Binary64) :
    ShowsNumber (number.fixed places) := by
  have sign : ∀ negative, InNumberLetters (minusSign negative) := by decide
  cases number with
  | notANumber =>
    have shows : ShowsNumber "NaN" := ⟨by decide, by decide⟩
    exact shows
  | infinite negative =>
    have shows : ShowsNumber "inf" := ⟨by decide, by decide⟩
    exact shows.behind (sign negative)
  | finite negative magnitude =>
    exact (showsNumber_placedDigits places _).behind (sign negative)

end Unknowns
