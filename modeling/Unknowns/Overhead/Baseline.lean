/-! The builds that are compared: one without tracing and one with it. -/

namespace Unknowns

/-- A build under which every workload is measured. -/
inductive Baseline
  | plain
  | tracing
deriving DecidableEq

namespace Baseline

/-- The order in which baselines are measured and shown. -/
def all : List Baseline := [.plain, .tracing]

/-- The name that results are saved under. -/
def name : Baseline → String
  | .plain => "plain"
  | .tracing => "tracing"

/-- The features that the build turns on, empty for none. -/
def features : Baseline → String
  | .plain => ""
  | .tracing => "tracing"

/-- The baseline of a name. -/
def ofName? (name : String) : Option Baseline :=
  all.find? fun baseline => baseline.name == name

end Baseline

end Unknowns
