import Unknowns.Binary64.Arithmetic
import Unknowns.Binary64.Fixed

/-! The text of a rate in operations per second, on three scales. -/

namespace Unknowns

/-- A rate in operations per second. -/
abbrev Rate := Binary64

namespace Rate

/-- Rates above this are written in thousands. -/
def thousand : Rate := Binary64.ofNat 1000

/-- Rates above this are written in millions. -/
def million : Rate := Binary64.ofNat 1000000

/-- A rate on the scale it is read on: two places with a unit, or a whole number. -/
def text (rate : Rate) : String :=
  if million.isBelow rate then (rate.div million).fixed 2 ++ "M"
  else if thousand.isBelow rate then (rate.div thousand).fixed 2 ++ "K"
  -- What is not a number is above nothing, and is written without a unit.
  else rate.fixed 0

end Rate

end Unknowns
