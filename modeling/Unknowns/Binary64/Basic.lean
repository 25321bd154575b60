import Unknowns.Binary64.Magnitude

/-! Binary64 numbers, their order, and their encoding. -/

namespace Unknowns

/-- A binary64 number; zeros and infinities carry a sign. -/
inductive Binary64
  | notANumber
  | infinite (negative : Bool)
  | finite (negative : Bool) (magnitude : Magnitude)
deriving DecidableEq

namespace Binary64

/-- The number nearest to a signed quotient of units, infinite beyond the finite range. -/
def ofUnits (negative : Bool) (numerator denominator : Nat) : Binary64 :=
  -- A result of zero keeps the sign that it is reached with.
  match Magnitude.nearest? numerator denominator with
  | some magnitude => .finite negative magnitude
  | none => .infinite negative

/-- A zero with the given sign. -/
def zero (negative : Bool) : Binary64 :=
  .finite negative Magnitude.zero

/-- The number nearest to a whole number. -/
def ofNat (whole : Nat) : Binary64 :=
  ofUnits false (whole * unitsPerOne) 1

/-- A count with a sign. -/
def signedCount (negative : Bool) (count : Nat) : Int :=
  if negative then -(count : Int) else count

/-- The place on the number line, in units, with the infinities just outside the finite range. -/
def position : Binary64 → Option Int
  | .notANumber => none
  | .infinite negative => some (signedCount negative unitLimit)
  | .finite negative magnitude => some (signedCount negative magnitude.units)

/-- A relation between places on the number line, which nothing that is not a number enters. -/
def related (relation : Int → Int → Bool) (left right : Binary64) : Bool :=
  match left.position, right.position with
  | some x, some y => relation x y
  | _, _ => false

/-- Whether the left number is below the right one. -/
def isBelow (left right : Binary64) : Bool :=
  related (fun x y => decide (x < y)) left right

/-- No number is below itself. -/
theorem isBelow_self (number : Binary64) : number.isBelow number = false := by
  unfold isBelow related
  cases number.position <;> simp

/-- Whether two numbers are at the same place; the two zeros are. -/
def isEqualTo (left right : Binary64) : Bool :=
  related (fun x y => decide (x = y)) left right

/-- Whether this is not a number. -/
def isNotANumber : Binary64 → Bool
  | .notANumber => true
  | _ => false

/-- The sign field of the encoding. -/
def signBits (negative : Bool) : Nat :=
  if negative then Nat.pow 2 63 else 0

/-- The 64-bit encoding, with one representative for what is not a number. -/
def bits : Binary64 → Nat
  -- All exponent bits, and the highest fraction bit.
  | .notANumber => 4095 * Nat.pow 2 51
  | .infinite negative => signBits negative + 2047 * Nat.pow 2 52
  | .finite negative magnitude => signBits negative + magnitude.bits

end Binary64

end Unknowns
