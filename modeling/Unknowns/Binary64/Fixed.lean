import Unknowns.Binary64.Basic

/-! Decimal text of binary64 numbers with a fixed number of places. -/

namespace Unknowns

/-- A minus sign when the number has one. -/
def minusSign (negative : Bool) : String :=
  if negative then "-" else ""

/-- A digit text filled up with leading zeros. -/
def paddedDigits (width value : Nat) : String :=
  let digits := toString value
  String.ofList (List.replicate (width - digits.length) '0') ++ digits

/-- A count of last places as text with a point in front of the places, if there are any. -/
def placedDigits (places count : Nat) : String :=
  -- Without places there is no point either.
  if places = 0 then toString count
  else
    let scale := Nat.pow 10 places
    toString (count / scale) ++ "." ++ paddedDigits places (count % scale)

/-- The count of last places nearest to a magnitude, with ties to the even count. -/
def Magnitude.inPlaces (magnitude : Magnitude) (places : Nat) : Nat :=
  -- The exact value is rounded once, however many digits it has.
  roundedQuotient (magnitude.units * Nat.pow 10 places) unitsPerOne

/-- All digits of the number rounded to the given places; the sign stays even on zero. -/
def Binary64.fixed (places : Nat) : Binary64 → String
  | .notANumber => "NaN"
  | .infinite negative => minusSign negative ++ "inf"
  | .finite negative magnitude =>
    minusSign negative ++ placedDigits places (magnitude.inPlaces places)

end Unknowns
