import Unknowns.Overhead.Table

/-! Making the report: collect the measurements first, then write the table in their place. -/

namespace Unknowns

/-- The directory that the report lies in. -/
def reportDirectory : Path := ["benchmark_results"]

/-- The file that the report is written to. -/
def reportPath : Path := reportDirectory ++ ["report.md"]

/-- What is said on the way: on the output, or as a diagnostic. -/
inductive Notice
  | output (line : String)
  | diagnostic (line : String)
deriving DecidableEq

/-- The lines of the output, in order. -/
def outputLines (notices : List Notice) : List String :=
  notices.filterMap fun
    | .output line => some line
    | .diagnostic _ => none

/-- The lines of the diagnostics, in order. -/
def diagnosticLines (notices : List Notice) : List String :=
  notices.filterMap fun
    | .output _ => none
    | .diagnostic line => some line

/-- The end of a task: what was said, the tree that is left, and the fault if there was one. -/
structure Ending (φ : Type) where
  notices : List Notice
  tree : FileTree
  fault : Option φ

/-- Making a report, step by step; a fault leaves the tree as the steps before it left it. -/
abbrev Reporting := EStateM ReportFault FileTree

/-- A step that changes the tree, or that fails for a reason and changes nothing. -/
def Reporting.change (step : FileTree → Except PathFault FileTree)
    (fault : PathFault → ReportFault) : Reporting Unit := fun tree =>
  match step tree with
  | .ok changed => .ok () changed
  | .error reason => .error (fault reason) tree

/-- One more line at the end of the report. -/
def addLine (line : String) : Reporting Unit :=
  modify fun tree => tree.appendFile (line ++ "\n").toUTF8 reportPath

/-- The report of these measurements is written, line after line. -/
def writeReport (measurements : List Measurement) : Reporting Unit := do
  -- A directory that has to be made stays, whatever becomes of the file.
  Reporting.change (·.makeDirectory reportDirectory) .outputPath
  -- Opening the file empties it, however long an earlier report was.
  Reporting.change (·.writeFile .empty reportPath) fun _ => .outputFile reportPath
  (reportLines measurements).forM addLine

/-- The report of all measurements below the results is written, once none of them is faulty. -/
def reportOn (results : FileTree) : Reporting Unit :=
  match results with
  | .file _ => throw .resultsNotADirectory
  | .directory _ => do
    -- All measurements are collected first, so a faulty one costs no earlier report.
    match collectMeasurements (← get) results with
    | .error fault => throw fault
    | .ok measurements => writeReport measurements

/-- The report is made from a tree; without results there is nothing to do. -/
def makeReport (tree : FileTree) : Ending ReportFault :=
  let opening := [Notice.output "", .output ">>> Generating Report..."]
  match tree.find? resultsPath with
  | none =>
    ⟨opening ++ [.diagnostic ("No criterion output found at " ++ resultsPath.text)], tree, none⟩
  | some results =>
    match (reportOn results).run tree with
    | .error fault left => ⟨opening, left, some fault⟩
    | .ok _ written =>
      ⟨opening ++ [.output ("Report written to " ++ reportPath.text)], written, none⟩

end Unknowns
