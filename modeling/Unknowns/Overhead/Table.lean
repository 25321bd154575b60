import Unknowns.Ascending
import Unknowns.Overhead.Measurement

/-! The table that compares the rates of each workload across the baselines. -/

namespace Unknowns

/-- The rate of a workload under a baseline; of several measurements the last one counts. -/
def rate? (measurements : List Measurement) (workload : String) (baseline : Baseline) :
    Option Rate :=
  -- The walk may meet the same names in several directories.
  (measurements.reverse.find? fun measurement =>
    measurement.workload == workload && measurement.baseline == baseline).map (·.rate)

/-- The measured workloads, each once, in the order of their names. -/
def workloads (measurements : List Measurement) : List String :=
  ascending (measurements.map (·.workload))

/-- The rate under tracing over the plain one, if both are known and the plain one is positive. -/
def ratio? (measurements : List Measurement) (workload : String) : Option Binary64 := do
  let plain ← rate? measurements workload .plain
  let traced ← rate? measurements workload .tracing
  -- The quotient may still be infinite, or not a number.
  if (Binary64.zero false).isBelow plain then some (traced.div plain) else none

/-- One line of a table: every cell between bars. -/
def tableLine (cells : List String) : String :=
  "|" ++ String.join (cells.map fun cell => " " ++ cell ++ " |")

/-- The line that separates the headings from the rows. -/
def separatorLine (columns : Nat) : String :=
  "|" ++ String.join (List.replicate columns "---|")

/-- The text of a rate, or the mark of a missing one. -/
def rateCell (rate : Option Rate) : String :=
  match rate with
  | some rate => rate.text
  | none => "N/A"

/-- The text of a ratio, or the mark of a missing one. -/
def ratioCell (ratio : Option Binary64) : String :=
  match ratio with
  | some ratio => "**" ++ ratio.fixed 2 ++ "x**"
  | none => "-"

/-- The headings: the workload, each baseline, and the comparison. -/
def headings : List String :=
  "Workload" :: Baseline.all.map (fun baseline => baseline.name ++ " (Ops/s)") ++
    ["tracing vs plain"]

/-- The cells of one workload. -/
def rowCells (measurements : List Measurement) (workload : String) : List String :=
  workload :: Baseline.all.map (fun baseline => rateCell (rate? measurements workload baseline)) ++
    [ratioCell (ratio? measurements workload)]

/-- The lines of the whole report. -/
def reportLines (measurements : List Measurement) : List String :=
  ["# Tracing Overhead Report", "", tableLine headings, separatorLine headings.length] ++
    (workloads measurements).map fun workload => tableLine (rowCells measurements workload)

/-- The text of the report, every line ended. -/
def reportText (measurements : List Measurement) : String :=
  String.join ((reportLines measurements).map fun line => line ++ "\n")

end Unknowns
