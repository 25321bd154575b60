import Unknowns.Binary64.Arithmetic
import Unknowns.Binary64.Reading

/-!
Numbers in JSON documents, read through a 64-bit significand that is scaled by a power of ten.
-/

namespace Unknowns

namespace Json

/-- Digits join the significand while it stays below `2 ^ 64`; the others are left over. -/
def absorb (significand : Nat) : List Nat → Nat × List Nat
  | [] => (significand, [])
  | digit :: rest =>
    -- The first digit without room ends the significand, even if a later one would fit.
    let longer := 10 * significand + digit
    if longer < 2 ^ 64 then absorb longer rest else (significand, digit :: rest)

/-- The power of ten that one scaling step uses at most. -/
def longestStep : Nat := 308

/-- The number nearest to a power of ten. -/
def powerOfTen (exponent : Nat) : Binary64 :=
  Binary64.ofDecimal false 1 exponent

/-- A significand moved down by decimal places, in steps that are each rounded. -/
def scaleDown (significand : Binary64) (places : Nat) : Binary64 :=
  if places ≤ longestStep then significand.div (powerOfTen places)
  else if places ≤ 2 * longestStep then
    (significand.div (powerOfTen longestStep)).div (powerOfTen (places - longestStep))
  -- Two full steps leave nothing of any 64-bit significand.
  else .zero false

/-- A significand moved up by decimal places, which may not leave the finite range. -/
def scaleUp? (significand : Nat) (places : Nat) : Option Binary64 :=
  if significand = 0 then some (.zero false)
  else if longestStep < places then none
  -- A number that rounds to an infinity is no JSON number.
  else match (Binary64.ofNat significand).mul (powerOfTen places) with
    | .finite negative magnitude => some (.finite negative magnitude)
    | _ => none

/-- A significand times a power of ten, rounded at each step of the scaling. -/
def scale? (significand : Nat) (exponent : Int) : Option Binary64 :=
  if 0 ≤ exponent then scaleUp? significand exponent.toNat
  else some (scaleDown (Binary64.ofNat significand) (-exponent).toNat)

/-- Whole digits are required, and a zero in front of others is superfluous. -/
def isWholePart : List Nat → Bool
  | [] => false
  | [_] => true
  | first :: _ => first != 0

/-- The grammar's demands on a numeral: a plain whole part, and digits after a point. -/
def isPlain (numeral : Numeral) : Bool :=
  isWholePart numeral.whole && numeral.fraction != some []

/-- The value of a plain numeral; digits that the significand has no room for only scale it. -/
def numeralValue? (numeral : Numeral) : Option Binary64 :=
  let (leading, wholeRest) := absorb 0 numeral.whole
  -- Digits behind the point go on filling what room the whole digits left.
  let (significand, fractionRest) := absorb leading numeral.fractionDigits
  let placesTaken := numeral.fractionDigits.length - fractionRest.length
  scale? significand
    (Binary64.exponentValue numeral.exponent + wholeRest.length - placesTaken)

/-- The number that a text writes, if it is a JSON number within the finite range. -/
def number? (text : List Char) : Option Binary64 := do
  let (negative, unsigned) := splitMinus text
  let numeral ← Numeral.read? unsigned
  if isPlain numeral then
    let value ← numeralValue? numeral
    return if negative then value.neg else value
  else none

end Json

end Unknowns
