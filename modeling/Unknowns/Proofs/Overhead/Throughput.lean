import Unknowns.Proofs.Overhead.Directories

/-! Elements are counted as the directory of a workload declares them, not as its runs do. -/

namespace Unknowns

variable {tree : FileTree} {file : EstimateFile} {time : Binary64}

/-- Files of estimates lie below the results. -/
theorem EstimateFile.LiesIn.present (lies : file.LiesIn tree) : tree.kind? resultsPath ≠ none := by
  obtain ⟨rest, below⟩ := lies.below
  have content := FileTree.content?_eq_some_iff.mp lies.content
  intro missing
  rw [lies.path, ← below, List.append_assoc, FileTree.kind?_append,
    FileTree.kind?_eq_none_iff.mp missing] at content
  cases content

/-- Where names tell directories apart, the report has a row that shows each file that counts. -/
theorem makeReport_shows (listed : tree.WellListed) (distinct : DistinctWorkloads tree)
    (succeeds : (makeReport tree).fault = none) (counts : file.CountsIn tree time) :
    ∃ rows, (makeReport tree).tree.text? reportPath = some (tableText rows) ∧
      Tabulates tree rows ∧ ∃ row ∈ rows, row.Shows tree file time := by
  obtain ⟨rows, _, summary, _, written⟩ := makeReport_writes listed counts.lies.present succeeds
  have table := summary.tabulates distinct.unambiguous
  exact ⟨rows, text?_of_written written, table, table.shows counts⟩

/-- Each row of a table is a part of its text. -/
theorem ReportRow.line_sublist {rows : List ReportRow} {row : ReportRow} (member : row ∈ rows) :
    row.line.toList.Sublist (tableText rows).toList := by
  have written : row.line ++ "\n" ∈ (tableLines rows).map fun line => line ++ "\n" :=
    List.mem_map_of_mem (List.mem_append_right _ (List.mem_map_of_mem member))
  rw [tableText, String.toList_join, List.flatMap_def]
  refine List.Sublist.trans ?_ (List.sublist_flatten_of_mem (List.mem_map_of_mem written))
  rw [String.toList_append]
  exact List.sublist_append_left _ _

/-- The elements that the description of a run declares, beside the estimates of the run. -/
def EstimateFile.declaredBeside? (tree : FileTree) (file : EstimateFile) : Option Binary64 :=
  declaredElements? tree (file.workloadPath ++ [file.baseline.name])

/-- One element is counted where the directory of the workload has no description. -/
theorem EstimateFile.rate_of_undescribed
    (undescribed : tree.kind? (file.workloadPath ++ ["benchmark.json"]) = none)
    (time : Binary64) : file.rate tree time = rateOf (.ofNat 1) time := by
  have undeclared : declaredElements? tree file.workloadPath = none := by
    ext1 elements
    simp [declaredElements?_eq_some_iff, Describes, undescribed]
  rw [rate, undeclared, Option.getD_none]

/--
The figure in a cell is that of the elements that the directory of the workload declares.

A description is looked for there alone. Where the runs are described beside their estimates, and
their workload is not, the figure is that of a single element, whatever the runs declare.
-/
theorem makeReport_countsElements (listed : tree.WellListed) (distinct : DistinctWorkloads tree)
    (succeeds : (makeReport tree).fault = none) (counts : file.CountsIn tree time) :
    ∃ rows, (makeReport tree).tree.text? reportPath = some (tableText rows) ∧
      Tabulates tree rows ∧ ∃ row ∈ rows, row.workload = file.workload ∧
        (∀ elements, ElementsOf tree file.workloadPath elements →
          rateCell (row.rate file.baseline) = (rateOf elements time).text) ∧
        (tree.kind? (file.workloadPath ++ ["benchmark.json"]) = none →
          rateCell (row.rate file.baseline) = (rateOf (.ofNat 1) time).text) := by
  obtain ⟨rows, text, table, row, member, shows⟩ := makeReport_shows listed distinct succeeds counts
  refine ⟨rows, text, table, row, member, shows.named, fun elements declared => ?_,
    fun undescribed => ?_⟩
  · rw [shows.shown, EstimateFile.rate, elementsOf_iff.mp declared]
    rfl
  · rw [shows.shown, EstimateFile.rate_of_undescribed undescribed]
    rfl

/-- What benchmarks leave behind when sixteen elements are declared beside the estimates. -/
def groupsOfSixteen : List (String × FileTree) :=
  [("erased_map_lookup", .directory [("16", .directory [("plain", .directory
    [("estimates.json", .file (estimatesText "100").toUTF8),
      ("benchmark.json", .file (descriptionText "16").toUTF8)])])])]

theorem groupsOfSixteen_wellListed : (resultsTree groupsOfSixteen).WellListed := by
  simp [groupsOfSixteen, resultsTree]

/-- The run is the only one there. -/
theorem liesIn_groupsOfSixteen_iff :
    file.LiesIn (resultsTree groupsOfSixteen) ↔ file = plainFile := by
  rw [liesIn_resultsTree_iff groupsOfSixteen_wellListed]
  exact List.mem_singleton

/-- The run counts, and is described beside its estimates but not for its workload. -/
theorem countsIn_groupsOfSixteen :
    DistinctWorkloads (resultsTree groupsOfSixteen) ∧
      plainFile.CountsIn (resultsTree groupsOfSixteen) (.ofNat 100) ∧
      (resultsTree groupsOfSixteen).kind? (plainFile.workloadPath ++ ["benchmark.json"]) = none ∧
      plainFile.declaredBeside? (resultsTree groupsOfSixteen) = some (.ofNat 16) := by
  refine ⟨?_, ?_, rfl, by decide +kernel⟩
  · intro file other time otherTime counts countsToo _
    rw [liesIn_groupsOfSixteen_iff.mp counts.lies, liesIn_groupsOfSixteen_iff.mp countsToo.lies]
  · exact ⟨liesIn_groupsOfSixteen_iff.mpr rfl, by decide +kernel, by decide +kernel⟩

/-- A run of sixteen elements in 100 nanoseconds is shown as one of a single element. -/
theorem makeReport_countsElements_ofSixteen :
    plainFile.declaredBeside? (resultsTree groupsOfSixteen) = some (.ofNat 16) ∧
      ∃ rows, (makeReport (resultsTree groupsOfSixteen)).tree.text? reportPath =
          some (tableText rows) ∧
        ∃ row ∈ rows, row.workload = "16" ∧ rateCell (row.rate .plain) = "10.00M" := by
  obtain ⟨distinct, counts, undescribed, declared⟩ := countsIn_groupsOfSixteen
  obtain ⟨rows, text, _, row, member, named, _, single⟩ :=
    makeReport_countsElements groupsOfSixteen_wellListed distinct (by decide +kernel) counts
  refine ⟨declared, rows, text, row, member, named, (single undescribed).trans ?_⟩
  decide +kernel

/-- The report of the run, with the figure for a single element. -/
def singleElementText : String :=
  "# Tracing Overhead Report\n\n" ++
    "| Workload | plain (Ops/s) | tracing (Ops/s) | tracing vs plain |\n" ++
      "|---|---|---|---|\n| 16 | 10.00M | N/A | - |\n"

/--
The report of a run does not have the figure for the elements that are declared beside it.

All that the layout of the results asks for is there: names that tell directories apart, and a
description of the run but none of the workload.
-/
theorem groupsOfSixteen_not_showsElements :
    DistinctWorkloads (resultsTree groupsOfSixteen) ∧
      plainFile.CountsIn (resultsTree groupsOfSixteen) (.ofNat 100) ∧
      (resultsTree groupsOfSixteen).kind? (plainFile.workloadPath ++ ["benchmark.json"]) = none ∧
      plainFile.declaredBeside? (resultsTree groupsOfSixteen) = some (.ofNat 16) ∧
      (makeReport (resultsTree groupsOfSixteen)).tree.text? reportPath = some singleElementText ∧
      ¬∃ rows, (makeReport (resultsTree groupsOfSixteen)).tree.text? reportPath =
          some (tableText rows) ∧
        ∃ row ∈ rows, row.workload = plainFile.workload ∧
          rateCell (row.rate .plain) = (rateOf (.ofNat 16) (.ofNat 100)).text := by
  obtain ⟨distinct, counts, undescribed, declared⟩ := countsIn_groupsOfSixteen
  have shown : (makeReport (resultsTree groupsOfSixteen)).tree.text? reportPath =
      some singleElementText := by decide +kernel
  refine ⟨distinct, counts, undescribed, declared, shown, ?_⟩
  rintro ⟨rows, text, row, member, named, cell⟩
  rw [shown, Option.some.injEq] at text
  have figure : (rateOf (.ofNat 16) (.ofNat 100)).text = "160.00M" := by decide +kernel
  -- The name and the figure have a six each, of which there is one in the whole text.
  have sixes := (ReportRow.line_sublist member).count_le '6'
  have single : singleElementText.toList.count '6' = 1 := by decide +kernel
  have name : plainFile.workload.toList.count '6' = 1 := by decide
  have second : ("160.00M" : String).toList.count '6' = 1 := by decide
  rw [← text, single, ReportRow.line, cell, figure, named] at sixes
  simp only [tableLine, List.map_cons, String.toList_append, String.toList_join,
    List.flatMap_cons, List.count_append, name, second] at sixes
  omega

end Unknowns
