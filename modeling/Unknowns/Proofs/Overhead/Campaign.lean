import Mathlib.Data.List.Forall2
import Unknowns.Proofs.Overhead.CommandLine

/-! Baselines are measured in order up to the first failure, and reported on only without one. -/

namespace Unknowns

namespace BuildTool

variable {tool : BuildTool}

/-- How each start of the build tool goes, counted from zero. -/
def outcome : BuildTool → Nat → StartOutcome
  | .missing, _ => .notStarted
  | .scripted statuses, start => .exited (statuses[start]?.getD 0)

/-- The first starts of the build tool, so many of them, all exit with zero. -/
def Succeeds (tool : BuildTool) (starts : Nat) : Prop :=
  ∀ start < starts, tool.outcome start = .exited 0

/-- The next start is the first one that is counted. -/
theorem start_fst : tool.start.1 = tool.outcome 0 := by
  cases tool with
  | missing => rfl
  | scripted statuses => rw [start, outcome, List.headD_eq_head?_getD, List.head?_eq_getElem?]

/-- Behind a start, the other ones are counted from the next. -/
theorem outcome_start (later : Nat) : tool.start.2.outcome later = tool.outcome (later + 1) := by
  cases tool with
  | missing => rfl
  | scripted statuses => rw [start, outcome, outcome, List.getElem?_tail]

/-- Without a start, none fails. -/
theorem Succeeds.zero : tool.Succeeds 0 :=
  fun start below => absurd below (Nat.not_lt_zero start)

/-- The starts behind a success succeed if those of the tool behind it do. -/
theorem Succeeds.succ {starts : Nat} (first : tool.outcome 0 = .exited 0)
    (others : tool.start.2.Succeeds starts) : tool.Succeeds (starts + 1) := by
  intro start below
  cases start with
  | zero => exact first
  | succ start =>
    -- The tool behind the first start counts one start less.
    rw [← outcome_start]
    exact others start (by omega)

end BuildTool

/-- Only a start that exits with zero is no fault. -/
theorem StartOutcome.fault?_eq_none_iff {outcome : StartOutcome} {baseline : Baseline} :
    outcome.fault? baseline = none ↔ outcome = .exited 0 := by
  cases outcome <;> simp [fault?]

/-- What is said of baselines that are measured one after another. -/
def measuringNotices (elapsed : String) (baselines : List Baseline) : List Notice :=
  baselines.flatMap fun baseline => startNotices baseline ++ [finishNotice elapsed baseline]

/-- The attempts to measure baselines with the first starts of the build tool. -/
def attemptsOn (tool : BuildTool) (quick : Bool) (baselines : List Baseline) : List Attempt :=
  baselines.mapIdx fun start baseline => ⟨benchInvocation quick baseline, tool.outcome start⟩

/-- Behind the first attempt, the others are made with the tool that it leaves. -/
theorem attemptsOn_cons (tool : BuildTool) (quick : Bool) (baseline : Baseline)
    (rest : List Baseline) :
    attemptsOn tool quick (baseline :: rest) =
      ⟨benchInvocation quick baseline, tool.outcome 0⟩ :: attemptsOn tool.start.2 quick rest := by
  simp only [attemptsOn, List.mapIdx_cons, BuildTool.outcome_start]

/-- How measuring baselines ends: with all of them, or at the first one that fails. -/
inductive RunEnding (tool : BuildTool) (elapsed : String) (quick : Bool)
    (baselines : List Baseline) : BenchRun → Prop
  | finished (succeeds : tool.Succeeds baselines.length) :
      RunEnding tool elapsed quick baselines
        ⟨measuringNotices elapsed baselines, attemptsOn tool quick baselines, none⟩
  | stopped (earlier later : List Baseline) (baseline : Baseline) (fault : BenchFault)
      (order : baselines = earlier ++ baseline :: later)
      (succeeds : tool.Succeeds earlier.length)
      (breaks : (tool.outcome earlier.length).fault? baseline = some fault) :
      RunEnding tool elapsed quick baselines
        ⟨measuringNotices elapsed earlier ++ startNotices baseline,
          attemptsOn tool quick (earlier ++ [baseline]), some fault⟩

/-- Measuring baselines one by one ends with all of them, or at the first one that fails. -/
theorem runBaselines_ending (elapsed : String) (quick : Bool) (tool : BuildTool)
    (baselines : List Baseline) :
    RunEnding tool elapsed quick baselines (runBaselines elapsed quick tool baselines) := by
  -- After a success, the other baselines are measured with the tool that it leaves.
  induction baselines generalizing tool with
  | nil => exact .finished .zero
  | cons baseline rest ih =>
    simp only [runBaselines]
    rw [BuildTool.start_fst]
    cases first : (tool.outcome 0).fault? baseline with
    | some fault =>
      -- Nothing was measured before, and nothing is tried behind it.
      exact .stopped [] rest baseline fault rfl .zero first
    | none =>
      -- However the others end, this one comes in front of them.
      have success := StartOutcome.fault?_eq_none_iff.mp first
      have ending := ih tool.start.2
      generalize runBaselines elapsed quick tool.start.2 rest = run at ending ⊢
      cases ending with
      | finished succeeds =>
        have all : RunEnding tool elapsed quick (baseline :: rest) _ :=
          .finished (.succ success succeeds)
        rw [attemptsOn_cons] at all
        simpa [measuringNotices] using all
      | stopped earlier later failing fault order succeeds breaks =>
        rw [BuildTool.outcome_start] at breaks
        have broken : RunEnding tool elapsed quick (baseline :: rest) _ :=
          .stopped (baseline :: earlier) later failing fault (by rw [order, List.cons_append])
            (.succ success succeeds) breaks
        rw [List.cons_append, attemptsOn_cons] at broken
        simpa [measuringNotices] using broken

/-- The notice that making a report begins with. -/
def reportingNotice : Notice := .output ">>> Generating Report..."

/-- Nothing that is said of measuring is taken for the beginning of a report. -/
theorem reportingNotice_not_mem (elapsed : String) (baseline : Baseline) :
    reportingNotice ∉ startNotices baseline ++ [finishNotice elapsed baseline] := by
  have finished : ">>> Generating Report..." ≠ "Finished " ++ baseline.name ++ " in " ++ elapsed := by
    intro same
    -- They differ in their first letters already.
    have letters := congrArg (·.toList.head?) same
    simp at letters
  -- The names of both baselines are known, so here the texts can be compared.
  have started : ">>> Generating Report..." ≠ ">>> Benchmarking baseline: " ++ baseline.name := by
    cases baseline <;> decide
  simp [reportingNotice, startNotices, finishNotice, finished, started]

/-- The diagnostics of notices in a row are those of each part. -/
theorem diagnosticLines_append (first second : List Notice) :
    diagnosticLines (first ++ second) = diagnosticLines first ++ diagnosticLines second :=
  List.filterMap_append

/-- What goes to the output is no diagnostic. -/
theorem diagnosticLines_cons_output (line : String) (notices : List Notice) :
    diagnosticLines (.output line :: notices) = diagnosticLines notices := rfl

/-- What is said while baselines are measured is no diagnostic. -/
theorem diagnosticLines_measuringNotices (elapsed : String) (baselines : List Baseline) :
    diagnosticLines (measuringNotices elapsed baselines) = [] := by
  -- All three notices of a baseline go to the output.
  induction baselines with
  | nil => rfl
  | cons baseline rest ih =>
    rw [measuringNotices, List.flatMap_cons, diagnosticLines_append, ← measuringNotices, ih]
    rfl

/-- What a start is asked for when it measures a baseline: one group of arguments behind another. -/
structure Invocation.Measures (invocation : Invocation) (quick : Bool) (baseline : Baseline) :
    Prop where
  toTool : invocation.arguments.takeWhile (· ≠ "--") =
    ["bench", "--bench", "variable_benchmark"] ++
      if baseline.features = "" then [] else ["--features", baseline.features]
  toBenchmark : invocation.arguments.dropWhile (· ≠ "--") =
    ["--", "--save-baseline", baseline.name] ++
      if quick then ["--measurement-time", "0.1", "--noplot", "--sample-size", "10"] else []
  ownName : ∀ other : Baseline, other.name = baseline.name → other = baseline
  environment : invocation.environment = [("CARGO_INCREMENTAL", "0")]

/-- The starts that are made do measure their baselines. -/
theorem benchInvocation_measures (quick : Bool) (baseline : Baseline) :
    (benchInvocation quick baseline).Measures quick baseline where
  toTool := by cases quick <;> cases baseline <;> decide
  toBenchmark := by cases quick <;> cases baseline <;> decide
  ownName other := by cases other <;> cases baseline <;> decide
  environment := rfl

/-- Attempts that measure baselines, one after another, with the first starts of a build tool. -/
structure MeasuringAttempts (tool : BuildTool) (quick : Bool) (baselines : List Baseline)
    (attempts : List Attempt) : Prop where
  measure : List.Forall₂ (fun attempt baseline => attempt.invocation.Measures quick baseline)
    attempts baselines
  outcomes : attempts.map (·.outcome) = (List.range baselines.length).map tool.outcome

/-- Each baseline has its own attempt. -/
theorem attemptsOn_measuring (tool : BuildTool) (quick : Bool) (baselines : List Baseline) :
    MeasuringAttempts tool quick baselines (attemptsOn tool quick baselines) := by
  -- The attempts behind the first one are counted by the tool that it leaves.
  induction baselines generalizing tool with
  | nil => exact ⟨.nil, rfl⟩
  | cons baseline rest ih =>
    obtain ⟨measure, outcomes⟩ := ih tool.start.2
    have behind : tool.start.2.outcome = tool.outcome ∘ Nat.succ :=
      funext BuildTool.outcome_start
    rw [attemptsOn_cons]
    refine ⟨.cons (benchInvocation_measures quick baseline) measure, ?_⟩
    rw [List.map_cons, outcomes, List.length_cons, List.range_succ_eq_map, List.map_cons,
      List.map_map, behind]

/-- How the benchmark command ends when it has to measure. -/
inductive CampaignEnding (tool : BuildTool) (quick : Bool) (tree : FileTree)
    (report execution : Execution) : Prop
  -- The first baseline that fails, or whose start does not come about, is the last one tried.
  | stopped (earlier later : List Baseline) (baseline : Baseline)
      (order : Baseline.all = earlier ++ baseline :: later)
      (succeeds : tool.Succeeds earlier.length)
      (breaks : tool.outcome earlier.length ≠ .exited 0)
      (attempts : MeasuringAttempts tool quick (earlier ++ [baseline]) execution.attempts)
      (exit : execution.exitCode = 1)
      (named : diagnosticLines execution.notices =
        ["Error: " ++ ((if tool.outcome earlier.length = .notStarted
          then "Failed to run bench for baseline " else "Benchmark failed for baseline ") ++
            baseline.name)])
      (unreported : reportingNotice ∉ execution.notices)
      (unchanged : execution.tree = tree)
  -- With all baselines measured, the command goes on as one that only reports.
  | finished (succeeds : tool.Succeeds Baseline.all.length)
      (attempts : MeasuringAttempts tool quick Baseline.all execution.attempts)
      (exit : execution.exitCode = report.exitCode)
      (reported : ∃ progress, execution.notices = progress ++ report.notices ∧
        diagnosticLines progress = [] ∧ reportingNotice ∉ progress)
      (sameTree : execution.tree = report.tree)

/-- A failed start is blamed on its baseline, in words for each way to fail. -/
theorem StartOutcome.fault?_message {outcome : StartOutcome} {baseline : Baseline}
    {fault : BenchFault} (faulty : outcome.fault? baseline = some fault) :
    fault.message = (if outcome = .notStarted then "Failed to run bench for baseline "
      else "Benchmark failed for baseline ") ++ baseline.name := by
  cases outcome with
  | notStarted =>
    cases faulty
    rfl
  | exited status =>
    -- Only another status than zero is a fault.
    simp only [fault?] at faulty
    split at faulty <;> cases faulty
    rfl

/-- Nothing that is said while baselines are measured begins a report. -/
theorem reportingNotice_not_mem_measuringNotices (elapsed : String) (baselines : List Baseline) :
    reportingNotice ∉ measuringNotices elapsed baselines := by
  simp only [measuringNotices, List.mem_flatMap, not_exists, not_and]
  exact fun baseline _ => reportingNotice_not_mem elapsed baseline

/-- What a command adds to a report that it ends with is said and done before. -/
theorem endWithReport_eq (notices : List Notice) (attempts : List Attempt) (tree : FileTree) :
    let report := endWithReport [] [] tree
    endWithReport notices attempts tree =
      ⟨report.exitCode, notices ++ report.notices, attempts, report.tree⟩ := by
  simp only [endWithReport]
  -- A fault of the report adds its own notice behind all others.
  cases (makeReport tree).fault with
  | none => rfl
  | some fault => simp

/-- A benchmark command that has to measure stops at a failure, or goes on to the report. -/
theorem bench_ending (tool : BuildTool) (elapsed : String) (quick : Bool) (tree : FileTree) :
    CampaignEnding tool quick tree (endWithReport [] [] tree)
      (bench tool elapsed quick false tree) := by
  have opening : reportingNotice ≠ .output "Running feature comparison benchmarks..." := by decide
  have ending := runBaselines_ending elapsed quick tool Baseline.all
  simp only [bench, runBenchmarks, Bool.false_eq_true, if_false]
  generalize runBaselines elapsed quick tool Baseline.all = run at ending ⊢
  cases ending with
  | finished succeeds =>
    -- What was said while measuring goes in front of what the report has to say.
    simp only [endWithReport_eq (_ :: _)]
    refine .finished succeeds (attemptsOn_measuring tool quick _) rfl ⟨_, rfl, ?_, ?_⟩ rfl
    · exact diagnosticLines_measuringNotices elapsed Baseline.all
    · simpa [opening] using reportingNotice_not_mem_measuringNotices elapsed Baseline.all
  | stopped earlier later baseline fault order succeeds breaks =>
    have broken : tool.outcome earlier.length ≠ .exited 0 := by
      intro success
      rw [StartOutcome.fault?_eq_none_iff.mpr success] at breaks
      cases breaks
    refine .stopped earlier later baseline order succeeds broken
      (attemptsOn_measuring tool quick _) rfl ?_ ?_ rfl
    · -- Only the fault itself is told as a diagnostic.
      dsimp only
      rw [List.cons_append, diagnosticLines_cons_output, diagnosticLines_append,
        diagnosticLines_append, diagnosticLines_measuringNotices,
        StartOutcome.fault?_message breaks]
      rfl
    · -- Neither the earlier baselines, nor this one, nor its fault begins a report.
      have started := reportingNotice_not_mem elapsed baseline
      have earlierOnes := reportingNotice_not_mem_measuringNotices elapsed earlier
      rw [List.mem_append, not_or] at started
      have failed : reportingNotice ≠ failure fault.message := by
        intro same
        cases same
      simp [opening, earlierOnes, started.1, failed]

/--
Baselines are measured in their order up to the first one that fails, and a failure leaves no report.

Each one is measured on its own features, under its own name, and briefly if that is asked for. When
all of them are measured, the command ends as one that only reports on the same tree does, and that
one starts no build at all.
-/
theorem execute_measures_in_order {arguments : List String} {switches : List Switch}
    (asked : Request.read arguments = .ok (.bench switches)) (tool other : BuildTool)
    (elapsed otherElapsed : String) (tree : FileTree) :
    let execution := execute tool elapsed arguments tree
    let report := execute other otherElapsed ["bench", "--report-only"] tree
    report.attempts = [] ∧
      ("--report-only" ∈ arguments → execution = report) ∧
      ("--report-only" ∉ arguments →
        CampaignEnding tool (decide ("--quick" ∈ arguments)) tree report execution) := by
  have report : execute other otherElapsed ["bench", "--report-only"] tree =
      endWithReport [] [] tree := rfl
  -- Which switches are on can be told from the arguments themselves.
  have quick : (.quick ∈ switches) ↔ "--quick" ∈ arguments := Request.mem_of_read asked .quick
  have reportOnly : (.reportOnly ∈ switches) ↔ "--report-only" ∈ arguments :=
    Request.mem_of_read asked .reportOnly
  have run : execute tool elapsed arguments tree =
      bench tool elapsed (decide ("--quick" ∈ arguments)) (decide ("--report-only" ∈ arguments))
        tree := by
    simp only [execute, asked, quick, reportOnly]
  intro execution reporting
  refine ⟨?_, fun only => ?_, fun measure => ?_⟩
  · -- A report by itself comes without attempts, whether it fails or not.
    show (execute other otherElapsed ["bench", "--report-only"] tree).attempts = []
    rw [report, endWithReport]
    cases (makeReport tree).fault <;> rfl
  · show execute tool elapsed arguments tree = execute other otherElapsed _ tree
    rw [run, report, decide_eq_true only]
    rfl
  · show CampaignEnding tool _ tree (execute other otherElapsed _ tree)
      (execute tool elapsed arguments tree)
    rw [run, report, decide_eq_false measure]
    exact bench_ending tool elapsed _ tree

/-- The second baseline fails in a brief run, which ends there. -/
theorem execute_measures_in_order_failing :
    Request.read ["bench", "--quick"] = .ok (.bench [.quick]) ∧
      (execute (.scripted [0, 3]) "1.00s" ["bench", "--quick"] .empty).exitCode = 1 ∧
      CampaignEnding (.scripted [0, 3]) true .empty
        (execute .missing "" ["bench", "--report-only"] .empty)
        (execute (.scripted [0, 3]) "1.00s" ["bench", "--quick"] .empty) := by
  have asked : Request.read ["bench", "--quick"] = .ok (.bench [.quick]) := by decide
  have ending := (execute_measures_in_order asked (.scripted [0, 3]) .missing "1.00s" "" .empty).2.2
    (by decide)
  exact ⟨asked, by decide, ending⟩

end Unknowns
