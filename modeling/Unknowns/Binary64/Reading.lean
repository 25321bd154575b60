import Unknowns.Binary64.Basic
import Unknowns.Binary64.Numeral

/-! Binary64 numbers nearest to decimal ones. -/

namespace Unknowns

namespace Binary64

/-- The number nearest to `digits * 10 ^ exponent`. -/
def ofDecimal (negative : Bool) (digits : Nat) (exponent : Int) : Binary64 :=
  if digits = 0 then zero negative
  -- At least ten to this power lies beyond the finite range.
  else if 400 < exponent then .infinite negative
  -- Below `2 ^ (digits.log2 + 1)` times the power of ten, nothing of this size is left of a unit.
  else if exponent < -400 - (digits.log2 : Int) then zero negative
  else if 0 ≤ exponent then
    ofUnits negative (digits * Nat.pow 10 exponent.toNat * unitsPerOne) 1
  else ofUnits negative (digits * unitsPerOne) (Nat.pow 10 (-exponent).toNat)

/-- The signed value of a written exponent, zero when none is written. -/
def exponentValue : Option WrittenExponent → Int
  | none => 0
  | some exponent => signedCount exponent.negative (digitsValue exponent.digits)

/-- The number nearest to a numeral, which must write at least one digit before its exponent. -/
def ofNumeral? (negative : Bool) (numeral : Numeral) : Option Binary64 :=
  let digits := numeral.whole ++ numeral.fractionDigits
  if digits.isEmpty then none
  else some (ofDecimal negative (digitsValue digits)
    -- Every digit behind the point moves the value down by one place.
    (exponentValue numeral.exponent - numeral.fractionDigits.length))

/-- The number that a text names: a signed numeral, or a signed special word in any case. -/
def read? (text : String) : Option Binary64 :=
  let (negative, unsigned) := splitSign text.toList
  -- Lower case is a matter of ASCII letters alone, as the special words are.
  let word := String.ofList (unsigned.map Char.toLower)
  if word = "inf" ∨ word = "infinity" then some (.infinite negative)
  else if word = "nan" then some .notANumber
  else (Numeral.read? unsigned).bind (ofNumeral? negative)

end Binary64

end Unknowns
