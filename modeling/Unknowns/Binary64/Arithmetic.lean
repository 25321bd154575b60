import Unknowns.Binary64.Basic

/-! Addition, multiplication and division, each rounded once from the exact result. -/

namespace Unknowns.Binary64

/-- The sum, rounded once; a sum of zero is negative only when both terms are. -/
def add : Binary64 → Binary64 → Binary64
  | .notANumber, _ => .notANumber
  | _, .notANumber => .notANumber
  -- Infinities of different signs leave nothing that could be called their sum.
  | .infinite left, .infinite right => if left = right then .infinite left else .notANumber
  | .infinite left, .finite _ _ => .infinite left
  | .finite _ _, .infinite right => .infinite right
  | .finite left x, .finite right y =>
    -- Counts of units add exactly, so only the sum has to be rounded.
    let total := signedCount left x.units + signedCount right y.units
    if total = 0 then zero (left && right)
    else ofUnits (decide (total < 0)) total.natAbs 1

/-- The product, rounded once; an infinity times zero is not a number. -/
def mul : Binary64 → Binary64 → Binary64
  | .notANumber, _ => .notANumber
  | _, .notANumber => .notANumber
  | .infinite left, .infinite right => .infinite (left ^^ right)
  | .infinite left, .finite right y =>
    if y.units = 0 then .notANumber else .infinite (left ^^ right)
  | .finite left x, .infinite right =>
    if x.units = 0 then .notANumber else .infinite (left ^^ right)
  | .finite left x, .finite right y =>
    -- A product of two counts is in units of units.
    ofUnits (left ^^ right) (x.units * y.units) unitsPerOne

/-- The quotient, rounded once; dividing by zero is infinite unless zero is divided. -/
def div : Binary64 → Binary64 → Binary64
  | .notANumber, _ => .notANumber
  | _, .notANumber => .notANumber
  | .infinite _, .infinite _ => .notANumber
  | .infinite left, .finite right _ => .infinite (left ^^ right)
  | .finite left _, .infinite right => zero (left ^^ right)
  | .finite left x, .finite right y =>
    if y.units = 0 then
      if x.units = 0 then .notANumber else .infinite (left ^^ right)
    -- A quotient of two counts is in ones.
    else ofUnits (left ^^ right) (x.units * unitsPerOne) y.units

/-- The number with its sign turned. -/
def neg : Binary64 → Binary64
  | .notANumber => .notANumber
  | .infinite negative => .infinite (!negative)
  | .finite negative magnitude => .finite (!negative) magnitude

end Unknowns.Binary64
