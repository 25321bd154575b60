import Unknowns.Overhead.Report

/-! Running the benchmarks under every baseline, and then making the report. -/

namespace Unknowns

/-- One start of the build tool: its arguments, and the variables added to its environment. -/
structure Invocation where
  arguments : List String
  environment : List (String × String)
deriving DecidableEq

/-- The build tool as it answers: it cannot be started, or each start ends with an exit status. -/
inductive BuildTool
  | missing
  -- Starts beyond the listed ones succeed.
  | scripted (statuses : List UInt8)
deriving DecidableEq

/-- How a start of the build tool goes: it does not come about, or ends with an exit status. -/
inductive StartOutcome
  | notStarted
  | exited (status : UInt8)
deriving DecidableEq

/-- The outcome of the next start of the build tool, and the tool behind it. -/
def BuildTool.start : BuildTool → StartOutcome × BuildTool
  | .missing => (.notStarted, .missing)
  | .scripted statuses => (.exited (statuses.headD 0), .scripted statuses.tail)

/-- A reason why benchmarks stop. -/
inductive BenchFault
  | notStarted (baseline : Baseline)
  | failed (baseline : Baseline)
deriving DecidableEq

/-- The outermost description of a fault. -/
def BenchFault.message : BenchFault → String
  | .notStarted baseline => "Failed to run bench for baseline " ++ baseline.name
  | .failed baseline => "Benchmark failed for baseline " ++ baseline.name

/-- The fault of a baseline whose start went like this, if it is one. -/
def StartOutcome.fault? (baseline : Baseline) : StartOutcome → Option BenchFault
  | .notStarted => some (.notStarted baseline)
  -- A status of zero is the only success.
  | .exited status => if status = 0 then none else some (.failed baseline)

/-- The arguments that turn on the features of a baseline, none for none. -/
def featureArguments (baseline : Baseline) : List String :=
  if baseline.features = "" then [] else ["--features", baseline.features]

/-- The arguments that shorten the measuring. -/
def quickArguments (quick : Bool) : List String :=
  if quick then ["--measurement-time", "0.1", "--noplot", "--sample-size", "10"] else []

/-- The start that measures one baseline; what follows the dashes goes to the benchmark itself. -/
def benchInvocation (quick : Bool) (baseline : Baseline) : Invocation :=
  { arguments := ["bench", "--bench", "variable_benchmark"] ++ featureArguments baseline ++
      ["--", "--save-baseline", baseline.name] ++ quickArguments quick
    environment := [("CARGO_INCREMENTAL", "0")] }

/-- A start that was tried, and how it went. -/
structure Attempt where
  invocation : Invocation
  outcome : StartOutcome
deriving DecidableEq

/-- What running benchmarks leaves: what was said, the starts tried, and the fault if any. -/
structure BenchRun where
  notices : List Notice
  attempts : List Attempt
  fault : Option BenchFault

/-- The notice that measuring a baseline begins with. -/
def startNotices (baseline : Baseline) : List Notice :=
  [.output "", .output (">>> Benchmarking baseline: " ++ baseline.name)]

/-- The notice that measuring a baseline ends with. -/
def finishNotice (elapsed : String) (baseline : Baseline) : Notice :=
  .output ("Finished " ++ baseline.name ++ " in " ++ elapsed)

/-- The baselines are measured in order until one fails; `elapsed` is how times are written. -/
def runBaselines (elapsed : String) (quick : Bool) : BuildTool → List Baseline → BenchRun
  | _, [] => ⟨[], [], none⟩
  | tool, baseline :: rest =>
    let (outcome, later) := tool.start
    let attempt := ⟨benchInvocation quick baseline, outcome⟩
    match outcome.fault? baseline with
    | some fault => ⟨startNotices baseline, [attempt], some fault⟩
    | none =>
      let run := runBaselines elapsed quick later rest
      ⟨startNotices baseline ++ finishNotice elapsed baseline :: run.notices,
        attempt :: run.attempts, run.fault⟩

/-- All baselines are measured. -/
def runBenchmarks (tool : BuildTool) (elapsed : String) (quick : Bool) : BenchRun :=
  let run := runBaselines elapsed quick tool Baseline.all
  { run with notices := .output "Running feature comparison benchmarks..." :: run.notices }

/-- What a whole command leaves behind. -/
structure Execution where
  exitCode : UInt8
  notices : List Notice
  attempts : List Attempt
  tree : FileTree

/-- The starts of the build tool that came about, in order. -/
def Execution.invocations (execution : Execution) : List Invocation :=
  (execution.attempts.filter (·.outcome ≠ .notStarted)).map (·.invocation)

/-- A failed command says why, and exits with one. -/
def failure (message : String) : Notice :=
  .diagnostic ("Error: " ++ message)

/-- The end of a command that reported after these notices and starts. -/
def endWithReport (notices : List Notice) (attempts : List Attempt) (tree : FileTree) :
    Execution :=
  let report := makeReport tree
  match report.fault with
  | none => ⟨0, notices ++ report.notices, attempts, report.tree⟩
  | some fault =>
    ⟨1, notices ++ report.notices ++ [failure fault.message], attempts, report.tree⟩

/-- The benchmark command: measure unless only the report is asked for, and then report. -/
def bench (tool : BuildTool) (elapsed : String) (quick reportOnly : Bool) (tree : FileTree) :
    Execution :=
  -- The report comes only after every baseline was measured.
  if reportOnly then endWithReport [] [] tree
  else
    let run := runBenchmarks tool elapsed quick
    match run.fault with
    | none => endWithReport run.notices run.attempts tree
    | some fault =>
      ⟨1, run.notices ++ [failure fault.message], run.attempts, tree⟩

end Unknowns
