import Mathlib.Data.List.Sort
import Unknowns.Overhead.Table
import Unknowns.Proofs.Overhead.Estimates

/-! The rows of a report are those of the measurements, in whatever order these were collected. -/

namespace Unknowns

variable {tree other : FileTree} {measurements : List Measurement} {workload : String}
  {baseline : Baseline} {rate : Rate}

/-- One row of a report: a workload, with its rate under each baseline if there is one. -/
structure ReportRow where
  workload : String
  rate : Baseline → Option Rate

namespace ReportRow

/-- The rate under tracing over the plain one, if there are both and the plain one is positive. -/
def ratio (row : ReportRow) : Option Binary64 :=
  match row.rate .plain, row.rate .tracing with
  | some plain, some traced =>
    if (Binary64.zero false).isBelow plain then some (traced.div plain) else none
  | _, _ => none

/-- A row as a line of the table. -/
def line (row : ReportRow) : String :=
  tableLine [row.workload, rateCell (row.rate .plain), rateCell (row.rate .tracing),
    ratioCell row.ratio]

end ReportRow

/-- The lines of a report with the given rows. -/
def tableLines (rows : List ReportRow) : List String :=
  ["# Tracing Overhead Report", "", tableLine headings, separatorLine headings.length] ++
    rows.map ReportRow.line

/-- The text of a report with the given rows. -/
def tableText (rows : List ReportRow) : String :=
  String.join ((tableLines rows).map fun line => line ++ "\n")

/-- The rows of measurements, one for each measured workload. -/
def reportRows (measurements : List Measurement) : List ReportRow :=
  (workloads measurements).map fun workload => ⟨workload, rate? measurements workload⟩

/-- The report of measurements is the table of their rows. -/
theorem reportText_eq_tableText (measurements : List Measurement) :
    reportText measurements = tableText (reportRows measurements) := by
  have ratio : ∀ workload, ratio? measurements workload =
      (⟨workload, rate? measurements workload⟩ : ReportRow).ratio := by
    intro workload
    unfold ratio? ReportRow.ratio
    dsimp only
    cases rate? measurements workload .plain <;>
      cases rate? measurements workload .tracing <;> rfl
  have row : ∀ workload, tableLine (rowCells measurements workload) =
      (⟨workload, rate? measurements workload⟩ : ReportRow).line := by
    intro workload
    rw [rowCells, ratio]
    rfl
  simp only [reportText, reportLines, tableText, tableLines, reportRows, List.map_map, row,
    Function.comp_def]

/-- A rate is the latest one of a workload and a baseline: no measurement behind it is of both. -/
def Latest (measurements : List Measurement) (workload : String) (baseline : Baseline)
    (rate : Rate) : Prop :=
  ∃ before after, measurements = before ++ ⟨workload, baseline, rate⟩ :: after ∧
    ∀ later ∈ after, later.workload = workload → later.baseline ≠ baseline

/-- The rate that is known of a workload and a baseline is the latest one. -/
theorem rate?_eq_some_iff :
    rate? measurements workload baseline = some rate ↔
      Latest measurements workload baseline rate := by
  -- The search runs from the end, so what it passes over lies behind what it finds.
  simp only [rate?, Option.map_eq_some_iff, List.find?_eq_some_iff_append, Bool.and_eq_true,
    beq_iff_eq, Bool.not_eq_true', Bool.and_eq_false_imp, beq_eq_false_iff_ne]
  constructor
  · rintro ⟨⟨_, _, _⟩, ⟨⟨rfl, rfl⟩, after, before, parts, others⟩, rfl⟩
    refine ⟨before.reverse, after.reverse, ?_, ?_⟩
    · rw [← List.reverse_reverse measurements, parts]
      simp
    · intro later member
      exact others later (List.mem_reverse.mp member)
  · rintro ⟨before, after, rfl, others⟩
    refine ⟨⟨workload, baseline, rate⟩, ⟨⟨rfl, rfl⟩, after.reverse, before.reverse, by simp, ?_⟩,
      rfl⟩
    intro later member
    exact others later (List.mem_reverse.mp member)

/-- A rate that is known is that of a measurement. -/
theorem mem_of_rate?_eq_some (known : rate? measurements workload baseline = some rate) :
    (⟨workload, baseline, rate⟩ : Measurement) ∈ measurements := by
  obtain ⟨before, after, rfl, _⟩ := rate?_eq_some_iff.mp known
  simp

/-- No rate is known of a workload and a baseline that were never measured together. -/
theorem rate?_eq_none_iff :
    rate? measurements workload baseline = none ↔
      ∀ rate, (⟨workload, baseline, rate⟩ : Measurement) ∉ measurements := by
  simp only [rate?, Option.map_eq_none_iff, List.find?_eq_none, List.mem_reverse,
    Bool.and_eq_true, beq_iff_eq, not_and]
  constructor
  · intro never rate member
    exact never _ member rfl rfl
  · rintro never ⟨_, _, rate⟩ member rfl rfl
    exact never rate member

/-- Some file of estimates counts for a workload under a baseline, and gives it this rate. -/
def Counted (tree : FileTree) (workload : String) (baseline : Baseline) (rate : Rate) : Prop :=
  ∃ (file : EstimateFile) (time : Binary64), file.CountsIn tree time ∧
    file.workload = workload ∧ file.baseline = baseline ∧ file.Rates tree time rate

/-- What counts for a workload under a baseline is the rate of some file of estimates. -/
theorem counted_iff :
    Counted tree workload baseline rate ↔
      ∃ (file : EstimateFile) (time : Binary64), file.CountsIn tree time ∧
        file.workload = workload ∧ file.baseline = baseline ∧ file.rate tree time = rate := by
  simp only [Counted, EstimateFile.rates_iff]

/-- Rows with what counts in a tree: one for each workload, and a rate in each cell that has one. -/
structure Summarises (tree : FileTree) (rows : List ReportRow) : Prop where
  ascending : (rows.map (·.workload)).Pairwise (· < ·)
  complete : ∀ workload, workload ∈ rows.map (·.workload) ↔
    ∃ baseline rate, Counted tree workload baseline rate
  counted : ∀ row ∈ rows, ∀ baseline rate, row.rate baseline = some rate →
    Counted tree row.workload baseline rate
  missing : ∀ row ∈ rows, ∀ baseline, row.rate baseline = none ↔
    ∀ rate, ¬Counted tree row.workload baseline rate

/-- Measurements hold what counts in a tree. -/
theorem Measured.mem_iff (measured : Measured tree measurements) :
    (⟨workload, baseline, rate⟩ : Measurement) ∈ measurements ↔
      Counted tree workload baseline rate := by
  rw [measured, counted_iff]
  constructor
  · rintro ⟨file, time, counts, same⟩
    cases same
    exact ⟨file, time, counts, rfl, rfl, rfl⟩
  · rintro ⟨file, time, counts, rfl, rfl, rfl⟩
    exact ⟨file, time, counts, rfl⟩

/-- The rows of all measurements summarise what counts. -/
theorem Measured.summarises (measured : Measured tree measurements) :
    Summarises tree (reportRows measurements) where
  ascending := by
    have names : (reportRows measurements).map (·.workload) = workloads measurements := by
      simp [reportRows, Function.comp_def]
    rw [names]
    exact pairwise_ascending _
  complete workload := by
    simp only [reportRows, List.map_map, Function.comp_def, List.map_id', workloads,
      mem_ascending, List.mem_map]
    constructor
    · rintro ⟨⟨_, baseline, rate⟩, member, rfl⟩
      exact ⟨baseline, rate, measured.mem_iff.mp member⟩
    · rintro ⟨baseline, rate, counted⟩
      exact ⟨_, measured.mem_iff.mpr counted, rfl⟩
  counted := by
    rintro row member baseline rate known
    obtain ⟨workload, _, rfl⟩ := List.mem_map.mp member
    exact measured.mem_iff.mp (mem_of_rate?_eq_some known)
  missing := by
    rintro row member baseline
    obtain ⟨workload, _, rfl⟩ := List.mem_map.mp member
    simp only [rate?_eq_none_iff, measured.mem_iff]

/-- The same counts in trees with the same results. -/
theorem Counted.congr (same : SameResults tree other) :
    Counted tree workload baseline rate ↔ Counted other workload baseline rate := by
  rw [counted_iff, counted_iff]
  constructor
  · rintro ⟨file, time, counts, named, under, rated⟩
    exact ⟨file, time, counts.congr same, named, under,
      (EstimateFile.rate_congr same counts.lies).symm.trans rated⟩
  · rintro ⟨file, time, counts, named, under, rated⟩
    have lies := counts.lies.congr same.symm
    exact ⟨file, time, counts.congr same.symm, named, under,
      (EstimateFile.rate_congr same lies).trans rated⟩

/-- No two files that count share both their workload's name and their baseline. -/
def Unambiguous (tree : FileTree) : Prop :=
  ∀ (file other : EstimateFile) (time otherTime : Binary64),
    file.CountsIn tree time → other.CountsIn tree otherTime →
      file.workload = other.workload → file.baseline = other.baseline → file.path = other.path

/-- Trees with the same results are unambiguous alike. -/
theorem Unambiguous.congr (once : Unambiguous tree) (same : SameResults tree other) :
    Unambiguous other :=
  fun file second time secondTime counts countsToo =>
    once file second time secondTime (counts.congr same.symm) (countsToo.congr same.symm)

/-- The two groups ran under different baselines, so their case of one name does no harm. -/
theorem unambiguous_twoGroups (plain traced : String) : Unambiguous (twoGroups plain traced) := by
  intro file other time otherTime counts countsToo _ baseline
  rcases liesIn_twoGroups_iff.mp counts.lies with rfl | rfl <;>
    rcases liesIn_twoGroups_iff.mp countsToo.lies with rfl | rfl
  · rfl
  · cases baseline
  · cases baseline
  · rfl

/-- The report of two groups whose cases took 100 and 400 nanoseconds. -/
def comparedText : String :=
  "# Tracing Overhead Report\n\n" ++
    "| Workload | plain (Ops/s) | tracing (Ops/s) | tracing vs plain |\n" ++
      "|---|---|---|---|\n| 16 | 10.00M | 2.50M | **0.25x** |\n"

/-- Files of estimates in one directory of a workload have the same workload. -/
theorem EstimateFile.LiesIn.workload_eq {file second : EstimateFile} (lies : file.LiesIn tree)
    (liesToo : second.LiesIn tree) (directory : file.workloadPath = second.workloadPath) :
    file.workload = second.workload := by
  have last := lies.workload
  rw [directory, liesToo.workload] at last
  exact (Option.some.inj last).symm

/-- Files of estimates that lie at one path of a tree are the same file. -/
theorem EstimateFile.LiesIn.eq_of_path {file second : EstimateFile} (lies : file.LiesIn tree)
    (liesToo : second.LiesIn tree) (path : file.path = second.path)
    (baseline : file.baseline = second.baseline) : file = second := by
  have workloadPath : file.workloadPath = second.workloadPath := by
    have same := path
    rw [lies.path, liesToo.path, baseline] at same
    exact List.append_cancel_right same
  have content : file.content = second.content :=
    Option.some.inj (lies.content.symm.trans (path ▸ liesToo.content))
  have workload := lies.workload_eq liesToo workloadPath
  obtain ⟨_, _, _, _, _⟩ := file
  obtain ⟨_, _, _, _, _⟩ := second
  simp only at path content baseline workload workloadPath
  simp only [path, content, baseline, workload, workloadPath]

/-- Where no two files share workload and baseline, one rate at most counts for them. -/
theorem Unambiguous.counted_unique (once : Unambiguous tree) {second : Rate}
    (counted : Counted tree workload baseline rate)
    (countedToo : Counted tree workload baseline second) : rate = second := by
  obtain ⟨file, time, counts, rfl, rfl, rfl⟩ := counted_iff.mp counted
  obtain ⟨other, otherTime, countsToo, workload, baseline, rfl⟩ := counted_iff.mp countedToo
  have path := once file other time otherTime counts countsToo workload.symm baseline.symm
  have same := counts.lies.eq_of_path countsToo.lies path baseline.symm
  subst same
  rw [counts.mean.unique countsToo.mean]

/-- Rows that leave nothing out: every rate that counts is in its cell. -/
structure Tabulates (tree : FileTree) (rows : List ReportRow) : Prop
    extends Summarises tree rows where
  shown : ∀ row ∈ rows, ∀ baseline rate,
    Counted tree row.workload baseline rate → row.rate baseline = some rate

/-- Where no two files share workload and baseline, the rows leave nothing out. -/
theorem Summarises.tabulates {rows : List ReportRow} (summary : Summarises tree rows)
    (once : Unambiguous tree) : Tabulates tree rows where
  toSummarises := summary
  shown row member baseline rate counted := by
    cases known : row.rate baseline with
    | none => exact absurd counted ((summary.missing row member baseline).mp known rate)
    | some held =>
      rw [once.counted_unique (summary.counted row member baseline held known) counted]

/-- Rows with the same names are the same when no name has two rows. -/
private theorem eq_of_names {rows others : List ReportRow}
    (names : rows.map (·.workload) = others.map (·.workload))
    (same : ∀ row ∈ rows, ∀ other ∈ others, row.workload = other.workload → row = other) :
    rows = others := by
  induction rows generalizing others with
  | nil => exact (List.map_eq_nil_iff.mp names.symm).symm
  | cons row rest ih =>
    cases others with
    | nil => cases names
    | cons other later =>
      obtain ⟨first, names⟩ := List.cons.inj names
      rw [same row List.mem_cons_self other List.mem_cons_self first, ih names fun row member
        other memberToo => same row (.tail _ member) other (.tail _ memberToo)]

/-- What counts determines the rows. -/
theorem Tabulates.unique {rows others : List ReportRow} (first : Tabulates tree rows)
    (second : Tabulates other others)
    (same : ∀ workload baseline rate,
      Counted tree workload baseline rate ↔ Counted other workload baseline rate) :
    rows = others := by
  have names : rows.map (·.workload) = others.map (·.workload) := by
    refine first.ascending.eq_of_mem_iff second.ascending fun workload => ?_
    rw [first.complete, second.complete]
    simp only [same]
  refine eq_of_names names fun row member other memberToo named => ?_
  obtain ⟨workload, rates⟩ := row
  obtain ⟨_, others⟩ := other
  subst named
  -- Each cell of either row has the rate that counts, if one does.
  have cells : rates = others := by
    funext baseline
    ext1 rate
    constructor
    · intro known
      exact second.shown _ memberToo baseline rate
        ((same _ _ _).mp (first.counted _ member baseline rate known))
    · intro known
      exact first.shown _ member baseline rate
        ((same _ _ _).mpr (second.counted _ memberToo baseline rate known))
  rw [cells]

/-- Unambiguous trees with the same results have the same rows. -/
theorem Summarises.eq_of_sameResults {rows others : List ReportRow} (first : Summarises tree rows)
    (second : Summarises other others) (once : Unambiguous tree) (same : SameResults tree other) :
    rows = others :=
  (first.tabulates once).unique (second.tabulates (once.congr same)) fun _ _ _ =>
    Counted.congr same

end Unknowns
