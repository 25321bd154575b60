import Mathlib.Data.List.Forall2
import Mathlib.Data.List.Nodup
import Mathlib.Tactic.Choose
import Unknowns.Proofs.Overhead.Summary

/-! Rows are told apart by names alone, so directories of workloads with one name share a row. -/

namespace Unknowns

variable {tree : FileTree} {rows : List ReportRow}

/-- Some file of estimates counts in this directory under a baseline, and gives this rate. -/
def CountedIn (tree : FileTree) (directory : Path) (baseline : Baseline) (rate : Rate) : Prop :=
  ∃ (file : EstimateFile) (time : Binary64), file.CountsIn tree time ∧
    file.workloadPath = directory ∧ file.baseline = baseline ∧ file.rate tree time = rate

/-- Files that count for workloads of one name lie in one directory. -/
def DistinctWorkloads (tree : FileTree) : Prop :=
  ∀ (file other : EstimateFile) (time otherTime : Binary64),
    file.CountsIn tree time → other.CountsIn tree otherTime →
      file.workload = other.workload → file.workloadPath = other.workloadPath

/-- A row is that of a directory: it has its name, and just the rates that are counted there. -/
structure RowOf (tree : FileTree) (directory : Path) (row : ReportRow) : Prop where
  named : directory.getLast? = some row.workload
  cells : ∀ baseline rate, row.rate baseline = some rate ↔ CountedIn tree directory baseline rate

/-- A row has the rate that a file of estimates gives, under the name of its workload. -/
structure ReportRow.Shows (tree : FileTree) (row : ReportRow) (file : EstimateFile)
    (time : Binary64) : Prop where
  named : row.workload = file.workload
  shown : row.rate file.baseline = some (file.rate tree time)

/-- Files show up in one row exactly when they lie in one directory, and each of these has a row. -/
structure RowsPerDirectory (tree : FileTree) (rows : List ReportRow) : Prop where
  together : ∀ (file other : EstimateFile) (time otherTime : Binary64),
    file.CountsIn tree time → other.CountsIn tree otherTime →
      ((∃ row ∈ rows, row.Shows tree file time ∧ row.Shows tree other otherTime) ↔
        file.workloadPath = other.workloadPath)
  oneEach : ∃ directories : List Path, directories.Nodup ∧
    (∀ directory, directory ∈ directories ↔
      ∃ baseline rate, CountedIn tree directory baseline rate) ∧
    List.Forall₂ (RowOf tree) directories rows

/-- No file is passed over when each directory has its row. -/
theorem RowsPerDirectory.shows (apart : RowsPerDirectory tree rows) {file : EstimateFile}
    {time : Binary64} (counts : file.CountsIn tree time) :
    ∃ row ∈ rows, row.Shows tree file time := by
  obtain ⟨row, member, shows, _⟩ := (apart.together file file time time counts counts).mpr rfl
  exact ⟨row, member, shows⟩

/-- Files in different directories take up two rows. -/
theorem RowsPerDirectory.two_le_length (apart : RowsPerDirectory tree rows)
    {file other : EstimateFile} {time otherTime : Binary64} (counts : file.CountsIn tree time)
    (countsToo : other.CountsIn tree otherTime)
    (differ : file.workloadPath ≠ other.workloadPath) : 2 ≤ rows.length := by
  obtain ⟨row, member, shows⟩ := apart.shows counts
  obtain ⟨second, memberToo, showsToo⟩ := apart.shows countsToo
  rcases rows with _ | ⟨only, _ | ⟨next, rest⟩⟩
  · cases member
  · -- A single row would show both.
    rw [List.mem_singleton] at member memberToo
    subst member memberToo
    have together := (apart.together file other time otherTime counts countsToo).mp
      ⟨second, List.mem_cons_self, shows, showsToo⟩
    exact absurd together differ
  · simp

/-- Where names tell directories apart, no two files share workload and baseline. -/
theorem DistinctWorkloads.unambiguous (distinct : DistinctWorkloads tree) : Unambiguous tree := by
  intro file other time otherTime counts countsToo workload baseline
  have directory := distinct file other time otherTime counts countsToo workload
  rw [counts.lies.path, countsToo.lies.path, directory, baseline]

/-- Where names tell directories apart, what counts for a workload counts in its directory. -/
theorem DistinctWorkloads.countedIn_iff (distinct : DistinctWorkloads tree) {file : EstimateFile}
    {time : Binary64} (counts : file.CountsIn tree time) {baseline : Baseline} {rate : Rate} :
    CountedIn tree file.workloadPath baseline rate ↔ Counted tree file.workload baseline rate := by
  rw [counted_iff]
  constructor
  · rintro ⟨other, otherTime, countsToo, directory, under, rated⟩
    have workload := countsToo.lies.workload_eq counts.lies directory
    exact ⟨other, otherTime, countsToo, workload, under, rated⟩
  · rintro ⟨other, otherTime, countsToo, workload, under, rated⟩
    have directory := distinct other file otherTime time countsToo counts workload
    exact ⟨other, otherTime, countsToo, directory, under, rated⟩

theorem Summarises.nodup (summary : Summarises tree rows) : (rows.map (·.workload)).Nodup :=
  nodup_of_pairwise_lt summary.ascending

/-- No name has two rows. -/
theorem Summarises.eq_of_workload (summary : Summarises tree rows) {row other : ReportRow}
    (member : row ∈ rows) (memberToo : other ∈ rows) (same : row.workload = other.workload) :
    row = other :=
  List.inj_on_of_nodup_map summary.nodup member memberToo same

/-- Each file that counts is shown by the row of its workload. -/
theorem Tabulates.shows (table : Tabulates tree rows) {file : EstimateFile} {time : Binary64}
    (counts : file.CountsIn tree time) : ∃ row ∈ rows, row.Shows tree file time := by
  have counted : Counted tree file.workload file.baseline (file.rate tree time) :=
    counted_iff.mpr ⟨file, time, counts, rfl, rfl, rfl⟩
  obtain ⟨row, member, named⟩ :=
    List.mem_map.mp ((table.complete file.workload).mpr ⟨_, _, counted⟩)
  refine ⟨row, member, named, ?_⟩
  exact table.shown row member file.baseline _ (named ▸ counted)

/-- Where names tell directories apart, each row is that of a directory. -/
theorem Tabulates.exists_rowOf (table : Tabulates tree rows) (distinct : DistinctWorkloads tree)
    {row : ReportRow} (member : row ∈ rows) : ∃ directory, RowOf tree directory row := by
  -- A row is there because something counts for its workload.
  obtain ⟨_, _, file, time, counts, workload, _, _⟩ :=
    (table.complete row.workload).mp (List.mem_map_of_mem member)
  refine ⟨file.workloadPath, workload ▸ counts.lies.workload, fun baseline rate => ?_⟩
  rw [distinct.countedIn_iff counts, workload]
  exact ⟨table.counted row member baseline rate, table.shown row member baseline rate⟩

/-- Where names tell directories apart, each directory has its row. -/
theorem Tabulates.oneEach (table : Tabulates tree rows) (distinct : DistinctWorkloads tree) :
    ∃ directories : List Path, directories.Nodup ∧
      (∀ directory, directory ∈ directories ↔
        ∃ baseline rate, CountedIn tree directory baseline rate) ∧
      List.Forall₂ (RowOf tree) directories rows := by
  have each : ∀ row ∈ rows, ∃ directory, RowOf tree directory row :=
    fun row member => table.exists_rowOf distinct member
  choose! directory rowOf using each
  refine ⟨rows.map directory, ?_, fun sought => ?_, ?_⟩
  · -- Two rows of one directory would have its name in common.
    refine (List.Nodup.of_map _ table.nodup).map_on fun row member other memberToo same => ?_
    have named := (rowOf row member).named
    rw [same, (rowOf other memberToo).named, Option.some.injEq] at named
    exact table.eq_of_workload member memberToo named.symm
  · constructor
    · intro listed
      obtain ⟨row, member, rfl⟩ := List.mem_map.mp listed
      obtain ⟨baseline, rate, counted⟩ :=
        (table.complete row.workload).mp (List.mem_map_of_mem member)
      have known := table.shown row member baseline rate counted
      exact ⟨baseline, rate, ((rowOf row member).cells baseline rate).mp known⟩
    · rintro ⟨baseline, rate, file, time, counts, rfl, rfl, rfl⟩
      obtain ⟨row, member, shows⟩ := table.shows counts
      -- The directory of the row that shows the file is the only one of its name.
      obtain ⟨other, otherTime, countsToo, directory, _, _⟩ :=
        ((rowOf row member).cells _ _).mp shows.shown
      have named := (rowOf row member).named
      rw [← directory, countsToo.lies.workload, Option.some.injEq, shows.named] at named
      have same := distinct other file otherTime time countsToo counts named
      exact List.mem_map.mpr ⟨row, member, directory.symm.trans same⟩
  · rw [List.forall₂_map_left_iff, List.forall₂_same]
    exact rowOf

/-- Files whose workloads have one name are shown by one row, if they are shown at all. -/
theorem Summarises.shows_both (summary : Summarises tree rows) {file other : EstimateFile}
    {time otherTime : Binary64} (workload : file.workload = other.workload)
    (shown : ∃ row ∈ rows, row.Shows tree file time)
    (shownToo : ∃ row ∈ rows, row.Shows tree other otherTime) :
    ∃ row ∈ rows, row.Shows tree file time ∧ row.Shows tree other otherTime := by
  obtain ⟨row, member, shows⟩ := shown
  obtain ⟨second, memberToo, showsToo⟩ := shownToo
  have named : row.workload = second.workload := by
    rw [shows.named, showsToo.named, workload]
  have same := summary.eq_of_workload member memberToo named
  subst same
  exact ⟨row, member, shows, showsToo⟩

/-- Rows are kept apart by directory exactly when names tell the directories apart. -/
theorem Summarises.rowsPerDirectory_iff (summary : Summarises tree rows) :
    RowsPerDirectory tree rows ↔ DistinctWorkloads tree := by
  constructor
  · intro apart file other time otherTime counts countsToo workload
    have both := summary.shows_both workload (apart.shows counts) (apart.shows countsToo)
    exact (apart.together file other time otherTime counts countsToo).mp both
  · intro distinct
    have table := summary.tabulates distinct.unambiguous
    refine ⟨fun file other time otherTime counts countsToo => ?_, table.oneEach distinct⟩
    constructor
    · rintro ⟨row, _, shows, showsToo⟩
      have workload : file.workload = other.workload := shows.named.symm.trans showsToo.named
      exact distinct file other time otherTime counts countsToo workload
    · intro directory
      have workload := counts.lies.workload_eq countsToo.lies directory
      exact summary.shows_both workload (table.shows counts) (table.shows countsToo)

/--
A report keeps the directories of workloads apart exactly when their names do.

Where two directories share a name, as the cases of two benchmark groups may, they share a row: it
compares one with the other, or shows one of them and passes over the other.
-/
theorem makeReport_rowsPerDirectory_iff (listed : tree.WellListed)
    (present : tree.kind? resultsPath ≠ none) (succeeds : (makeReport tree).fault = none) :
    ∃ rows, (makeReport tree).tree.text? reportPath = some (tableText rows) ∧
      Summarises tree rows ∧ (RowsPerDirectory tree rows ↔ DistinctWorkloads tree) := by
  obtain ⟨rows, _, summary, _, written⟩ := makeReport_writes listed present succeeds
  exact ⟨rows, text?_of_written written, summary, summary.rowsPerDirectory_iff⟩

/-- Both of two groups count. -/
theorem countsIn_twoGroups :
    (groupFile "a" .plain (estimatesText "100")).CountsIn
        (twoGroups (estimatesText "100") (estimatesText "400")) (Binary64.ofNat 100) ∧
      (groupFile "b" .tracing (estimatesText "400")).CountsIn
        (twoGroups (estimatesText "100") (estimatesText "400")) (Binary64.ofNat 400) :=
  ⟨⟨liesIn_twoGroups_iff.mpr (.inl rfl), by decide +kernel, by decide +kernel⟩,
    ⟨liesIn_twoGroups_iff.mpr (.inr rfl), by decide +kernel, by decide +kernel⟩⟩

/-- Two groups with a case of one name are not kept apart. -/
theorem makeReport_mixes_twoGroups :
    (twoGroups (estimatesText "100") (estimatesText "400")).WellListed ∧
      ∃ rows, (makeReport (twoGroups (estimatesText "100") (estimatesText "400"))).tree.text?
          reportPath = some (tableText rows) ∧
        ¬RowsPerDirectory (twoGroups (estimatesText "100") (estimatesText "400")) rows := by
  have listed := twoGroups_wellListed (estimatesText "100") (estimatesText "400")
  obtain ⟨rows, text, _, apart⟩ :=
    makeReport_rowsPerDirectory_iff listed (by decide +kernel) (by decide +kernel)
  refine ⟨listed, rows, text, fun perDirectory => ?_⟩
  obtain ⟨plain, traced⟩ := countsIn_twoGroups
  have directory := apart.mp perDirectory _ _ _ _ plain traced rfl
  exact absurd directory (by decide)

/-- Each line ends in a newline. -/
theorem length_le_count_newline (lines : List String) :
    lines.length ≤ (String.join (lines.map fun line => line ++ "\n")).toList.count '\n' := by
  induction lines with
  | nil => simp
  | cons line rest ih =>
    have ended : ("\n" : String).toList.count '\n' = 1 := by decide
    rw [List.map_cons, String.join_cons, String.toList_append, String.toList_append,
      List.count_append, List.count_append, List.length_cons, ended]
    omega

/--
The report of two groups with a case of one name has a single row, so no rows are kept apart in it.

The row compares the plain run of the one group with the traced run of the other.
-/
theorem twoGroups_not_rowsPerDirectory :
    (makeReport (twoGroups (estimatesText "100") (estimatesText "400"))).tree.text? reportPath =
        some comparedText ∧
      ¬∃ rows, (makeReport (twoGroups (estimatesText "100") (estimatesText "400"))).tree.text?
          reportPath = some (tableText rows) ∧
        RowsPerDirectory (twoGroups (estimatesText "100") (estimatesText "400")) rows := by
  have text : (makeReport (twoGroups (estimatesText "100") (estimatesText "400"))).tree.text?
      reportPath = some comparedText := by decide +kernel
  refine ⟨text, ?_⟩
  rintro ⟨rows, written, apart⟩
  rw [text, Option.some.injEq] at written
  -- The text has five lines, four of which are above the rows.
  have lines := length_le_count_newline (tableLines rows)
  have five : comparedText.toList.count '\n' = 5 := by decide +kernel
  rw [← tableText, ← written, five, tableLines, List.length_append, List.length_map] at lines
  have single : rows.length ≤ 1 := Nat.le_of_add_le_add_left lines
  -- Its single row cannot stand for both directories.
  obtain ⟨plain, traced⟩ := countsIn_twoGroups
  have several := apart.two_le_length plain traced (by decide)
  omega

end Unknowns
