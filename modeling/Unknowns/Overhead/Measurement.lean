import Unknowns.FileTree
import Unknowns.Json.Reader
import Unknowns.Overhead.Baseline
import Unknowns.Overhead.Rate

/-! Measured rates, collected from the files that benchmark runs leave behind. -/

namespace Unknowns

/-- A reason why the report cannot be made. -/
inductive ReportFault
  | unreadable (path : Path)
  | malformed (path : Path)
  | resultsNotADirectory
  | outputPath (reason : PathFault)
  | outputFile (path : Path)
deriving DecidableEq

/-- The outermost description of a fault. -/
def ReportFault.message : ReportFault → String
  | .unreadable path => "Failed to read " ++ path.text
  | .malformed path => "Failed to parse " ++ path.text
  | .resultsNotADirectory => PathFault.notADirectory.message
  | .outputPath reason => reason.message
  | .outputFile path => "Failed to create " ++ path.text

/-- The rate of a workload under one baseline. -/
structure Measurement where
  workload : String
  baseline : Baseline
  rate : Rate

/-- A file with the time estimates of a workload under one baseline. -/
structure EstimateFile where
  path : Path
  content : ByteArray
  baseline : Baseline
  workload : String
  workloadPath : Path

namespace EstimateFile

/-- The estimates among all files: named so, below a baseline, below a workload. -/
def ofFile? (file : Path × ByteArray) : Option EstimateFile :=
  -- Read from the end, a path names the file, then its baseline, then its workload.
  match file.1.reverse with
  | "estimates.json" :: baselineName :: workload :: above => do
    let baseline ← Baseline.ofName? baselineName
    -- Summaries over all workloads lie below a directory of this name.
    if workload = "report" then none
    else some ⟨file.1, file.2, baseline, workload, (workload :: above).reverse⟩
  | _ => none

end EstimateFile

/-- The document at a path, whatever else may be there. -/
def FileTree.document? (tree : FileTree) (path : Path) : Option Document :=
  (tree.text? path).bind Document.read?

/-- The declared number of elements per iteration, from the file next to the baselines. -/
def declaredElements? (tree : FileTree) (workloadPath : Path) : Option Binary64 := do
  -- Whatever keeps the file from being read, the workload then counts as one element.
  let description ← tree.document? (workloadPath ++ ["benchmark.json"])
  (← description.at? ["throughput", "Elements"]).number?

/-- The mean time per iteration in nanoseconds, if the estimates hold one. -/
def meanTime? (estimates : Document) : Option Binary64 := do
  (← estimates.at? ["mean", "point_estimate"]).number?

/-- The number of nanoseconds in a second. -/
def nanoseconds : Binary64 := Binary64.ofNat 1000000000

/-- Elements per second, from elements per iteration and nanoseconds per iteration. -/
def rateOf (elements time : Binary64) : Rate :=
  -- The product is rounded before it is divided, so very many elements may overflow to infinity.
  (elements.mul nanoseconds).div time

/-- The rate that an estimates file gives: none when its mean time is not positive. -/
def measuredRate? (elements : Option Binary64) (estimates : Document) : Option Rate :=
  -- Estimates without a mean count like a mean of zero.
  let time := (meanTime? estimates).getD (.zero false)
  if (Binary64.zero false).isBelow time then
    some (rateOf (elements.getD (Binary64.ofNat 1)) time)
  else none

/-- The document that an estimates file holds. -/
def EstimateFile.document (file : EstimateFile) : Except ReportFault Document :=
  match String.fromUTF8? file.content with
  | none => .error (.unreadable file.path)
  | some text =>
    match Document.read? text with
    | none => .error (.malformed file.path)
    | some document => .ok document

/-- The measurement of an estimates file, if it counts. -/
def EstimateFile.measure (tree : FileTree) (file : EstimateFile) :
    Except ReportFault (Option Measurement) := do
  -- A faulty file stops the report even where its measurement would not have counted.
  let estimates ← file.document
  let rate := measuredRate? (declaredElements? tree file.workloadPath) estimates
  return rate.map fun rate => ⟨file.workload, file.baseline, rate⟩

/-- The directory that benchmark runs write into. -/
def resultsPath : Path := ["target", "criterion"]

/-- Every estimates file below the results directory, in the order of the walk. -/
def estimateFiles (results : FileTree) : List EstimateFile :=
  (results.filesFrom resultsPath).filterMap EstimateFile.ofFile?

/-- All measurements in the order of the walk, or the first fault on it. -/
def collectMeasurements (tree results : FileTree) : Except ReportFault (List Measurement) := do
  let measured ← (estimateFiles results).mapM fun file => file.measure tree
  return measured.filterMap id

end Unknowns
