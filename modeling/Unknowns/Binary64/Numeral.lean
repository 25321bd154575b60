/-! Written numbers: their digits, before any value is given to them. -/

namespace Unknowns

/-- The value of a decimal digit character. -/
def digitValue (digit : Char) : Nat :=
  digit.toNat - '0'.toNat

/-- The leading digits of a text and what follows them. -/
def splitDigits (text : List Char) : List Nat × List Char :=
  ((text.takeWhile Char.isDigit).map digitValue, text.dropWhile Char.isDigit)

/-- The whole number that a list of digits writes, highest digit first. -/
def digitsValue (digits : List Nat) : Nat :=
  digits.foldl (fun value digit => 10 * value + digit) 0

/-- A leading minus sign as a truth value, and what follows it. -/
def splitMinus : List Char → Bool × List Char
  | '-' :: rest => (true, rest)
  | text => (false, text)

/-- A leading sign of either kind, true when it is a minus, and what follows it. -/
def splitSign : List Char → Bool × List Char
  | '+' :: rest => (false, rest)
  | text => splitMinus text

/-- The exponent of a written number: its sign and its digits. -/
structure WrittenExponent where
  negative : Bool
  digits : List Nat

/-- An unsigned number as written: whole digits, and digits after a point when there is one. -/
structure Numeral where
  whole : List Nat
  fraction : Option (List Nat)
  exponent : Option WrittenExponent

namespace Numeral

/-- An optional point with the digits after it, and what follows them. -/
def splitFraction : List Char → Option (List Nat) × List Char
  | '.' :: rest =>
    let (digits, after) := splitDigits rest
    (some digits, after)
  | text => (none, text)

/-- An optional exponent that must reach the end of the text; its digits may not be missing. -/
def readExponent? : List Char → Option (Option WrittenExponent)
  | [] => some none
  | mark :: rest =>
    -- Nothing but an exponent may follow the digits.
    if mark = 'e' ∨ mark = 'E' then
      let (negative, afterSign) := splitSign rest
      let (digits, after) := splitDigits afterSign
      if digits.isEmpty || !after.isEmpty then none else some (some ⟨negative, digits⟩)
    else none

/-- The numeral that a whole text writes; any group of digits but the exponent's may be empty. -/
def read? (text : List Char) : Option Numeral := do
  let (whole, afterWhole) := splitDigits text
  let (fraction, afterFraction) := splitFraction afterWhole
  let exponent ← readExponent? afterFraction
  return { whole, fraction, exponent }

/-- The digits after the point, none when there is no point. -/
def fractionDigits (numeral : Numeral) : List Nat :=
  numeral.fraction.getD []

end Numeral

end Unknowns
