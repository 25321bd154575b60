import Unknowns.Proofs.Overhead.Faults
import Unknowns.Proofs.Overhead.Rows

/-! The report of a tree is the table of what counts in it, and nothing else has a part in it. -/

namespace Unknowns

variable {tree other : FileTree}

/-- A report that succeeds, where there are results, writes a summary of what counts. -/
theorem makeReport_writes (listed : tree.WellListed) (present : tree.kind? resultsPath ≠ none)
    (succeeds : (makeReport tree).fault = none) :
    ∃ rows prepared, Summarises tree rows ∧ tree.makeDirectory reportDirectory = .ok prepared ∧
      prepared.writeFile (tableText rows).toUTF8 reportPath = .ok (makeReport tree).tree := by
  have outcome := makeReport_outcome listed
  generalize (makeReport tree).fault = reported at outcome succeeds
  generalize (makeReport tree).tree = left at outcome ⊢
  -- Of the two endings without a fault, the one without results is excluded.
  subst succeeds
  cases outcome with
  | noResults missing => exact absurd missing present
  | written results sound measured free made written =>
    refine ⟨_, _, measured.summarises, made, ?_⟩
    rw [← reportText_eq_tableText]
    exact written

/-- A tree whose report succeeds has the report succeed in every order of listing. -/
theorem makeReport_succeeds_relisted (listed : tree.WellListed) (relisted : tree.Relisted other)
    (succeeds : (makeReport tree).fault = none) : (makeReport other).fault = none := by
  have same := relisted.kind? listed
  rw [makeReport_succeeds_iff listed] at succeeds
  rw [makeReport_succeeds_iff (relisted.wellListed listed), ← same resultsPath,
    ← EstimatesFlawed.congr (.of_relisted relisted listed), ← OutputBlocked.congr same]
  exact succeeds

/--
In whichever order directories are listed, the report is one table, which what counts determines.

The table has one row for each workload that something counts for, in the order of their names. A
cell has the rate that counts for its workload and baseline, or the mark of none: as many elements
as the description of the workload declares, or one, for each mean time. No two files may share
workload and baseline, and without results no report is written.
-/
theorem makeReport_tabulates (listed : tree.WellListed) (once : Unambiguous tree)
    (succeeds : (makeReport tree).fault = none) :
    (tree.kind? resultsPath = none ∧
        ∀ order, tree.Relisted order → (makeReport order).tree = order) ∨
      ∃ rows, Tabulates tree rows ∧ (∀ others, Tabulates tree others → others = rows) ∧
        ∀ order, tree.Relisted order → (makeReport order).fault = none ∧
          (makeReport order).tree.text? reportPath = some (tableText rows) := by
  by_cases missing : tree.kind? resultsPath = none
  · refine .inl ⟨missing, fun order relisted => ?_⟩
    have nowhere : order.find? resultsPath = none :=
      FileTree.kind?_eq_none_iff.mp ((relisted.kind? listed resultsPath).symm.trans missing)
    simp only [makeReport, nowhere]
  · obtain ⟨rows, _, summary, _, _⟩ := makeReport_writes listed missing succeeds
    have table := summary.tabulates once
    have determined : ∀ others, Tabulates tree others → others = rows := by
      intro others tabulates
      exact tabulates.unique table fun _ _ _ => Iff.rfl
    refine .inr ⟨rows, table, determined, fun order relisted => ?_⟩
    have orderSucceeds := makeReport_succeeds_relisted listed relisted succeeds
    refine ⟨orderSucceeds, ?_⟩
    -- The tree in the other order has a summary of its own, with the same results to sum up.
    have present : order.kind? resultsPath ≠ none := by
      rw [← relisted.kind? listed resultsPath]
      exact missing
    obtain ⟨others, _, otherSummary, _, written⟩ :=
      makeReport_writes (relisted.wellListed listed) present orderSucceeds
    have equal : rows = others :=
      summary.eq_of_sameResults otherSummary once (.of_relisted relisted listed)
    rw [equal]
    exact text?_of_written written

/-- Beside a workload that is described and ran twice, one that is not described and ran plainly. -/
def describedGroups : List (String × FileTree) :=
  comparedGroups ++ [("erased_map_insert", .directory [("8", .directory
    [("plain", .directory [("estimates.json", .file (estimatesText "500").toUTF8)])])])]

/-- The estimates of the run that is not described. -/
def undescribedFile : EstimateFile :=
  ⟨["target", "criterion", "erased_map_insert", "8", "plain", "estimates.json"],
    (estimatesText "500").toUTF8, .plain, "8", ["target", "criterion", "erased_map_insert", "8"]⟩

theorem describedGroups_wellListed : (resultsTree describedGroups).WellListed := by
  simp [describedGroups, comparedGroups, resultsTree]

/-- The three runs have no workload and baseline in common. -/
theorem unambiguous_describedGroups : Unambiguous (resultsTree describedGroups) := by
  have lies : ∀ file : EstimateFile, file.LiesIn (resultsTree describedGroups) →
      file = plainFile ∨ file = tracedFile ∨ file = undescribedFile := by
    have walked : estimateFiles (.directory describedGroups) =
        [plainFile, tracedFile, undescribedFile] := rfl
    intro file lies
    rw [liesIn_resultsTree_iff describedGroups_wellListed, walked] at lies
    simpa using lies
  intro file other time otherTime counts countsToo workload baseline
  rcases lies file counts.lies with rfl | rfl | rfl <;>
    rcases lies other countsToo.lies with rfl | rfl | rfl
  all_goals first
    | rfl
    | exact absurd workload (by decide)
    | exact absurd baseline (by decide)

/-- The report of the three runs: of sixteen elements each, and of a single one. -/
def describedText : String :=
  "# Tracing Overhead Report\n\n" ++
    "| Workload | plain (Ops/s) | tracing (Ops/s) | tracing vs plain |\n" ++
      "|---|---|---|---|\n" ++
        "| 16 | 160.00M | 40.00M | **0.25x** |\n| 8 | 2.00M | N/A | - |\n"

/-- Elements are counted where they are declared, whichever group is listed first. -/
theorem makeReport_tabulates_describedGroups :
    (resultsTree describedGroups).WellListed ∧ Unambiguous (resultsTree describedGroups) ∧
      (makeReport (resultsTree describedGroups)).fault = none ∧
      ElementsOf (resultsTree describedGroups) plainFile.workloadPath (.ofNat 16) ∧
      ElementsOf (resultsTree describedGroups) undescribedFile.workloadPath (.ofNat 1) ∧
      (makeReport (resultsTree describedGroups.reverse)).tree.text? reportPath =
        some describedText := by
  have succeeds : (makeReport (resultsTree describedGroups)).fault = none := by decide +kernel
  have relisted := resultsTree_relisted (List.reverse_perm describedGroups).symm
  refine ⟨describedGroups_wellListed, unambiguous_describedGroups, succeeds,
    elementsOf_iff.mpr (by decide +kernel), elementsOf_iff.mpr (by decide +kernel), ?_⟩
  rcases makeReport_tabulates describedGroups_wellListed unambiguous_describedGroups succeeds with
    ⟨missing, _⟩ | ⟨rows, _, _, written⟩
  · have present : (resultsTree describedGroups).kind? resultsPath = some .directory := rfl
    rw [present] at missing
    cases missing
  · -- The one table is the text that is read in the first order.
    rw [(written _ relisted).2, ← (written _ (.same _)).2]
    decide +kernel

end Unknowns
