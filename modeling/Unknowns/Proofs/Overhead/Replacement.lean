import Unknowns.Proofs.Overhead.Summary

/-! A report replaces an earlier one and leaves all else alone; a failure leaves no trace. -/

namespace Unknowns

variable {tree after again : FileTree} {text : String} {rows : List ReportRow}

/-- The report lies outside of the results. -/
theorem ReportReplaced.sameResults (replaced : ReportReplaced tree text after) :
    SameResults tree after := by
  intro path below
  have notReport : path ≠ reportPath := by
    rintro rfl
    simp [resultsPath, reportPath, reportDirectory] at below
  have notDirectory : path ≠ reportDirectory := by
    rintro rfl
    simp [resultsPath, reportDirectory] at below
  rw [replaced path, if_neg notReport, if_neg notDirectory]

/-- Where a report was written, another one can be. -/
theorem ReportReplaced.not_blocked (replaced : ReportReplaced tree text after) :
    ¬OutputBlocked after := by
  have report : after.kind? reportPath = some (.file text.toUTF8) := replaced reportPath
  have directory : after.kind? reportDirectory = some .directory := replaced reportDirectory
  simp [OutputBlocked, report, directory]

/-- A report stays in its place when directories are listed in another order. -/
theorem ReportReplaced.relisted (replaced : ReportReplaced tree text after)
    (listed : after.WellListed) (relisted : after.Relisted again) :
    ReportReplaced tree text again :=
  fun place => (relisted.kind? listed place).symm.trans (replaced place)

/-- A tree is as it was when its report fails, and when there are no results. -/
theorem makeReport_untouched (listed : tree.WellListed)
    (nothing : (makeReport tree).fault ≠ none ∨ tree.kind? resultsPath = none) :
    (makeReport tree).tree = tree := by
  have outcome := makeReport_outcome listed
  generalize (makeReport tree).fault = reported at outcome nothing
  generalize (makeReport tree).tree = left at outcome ⊢
  cases outcome with
  | noResults missing => rfl
  | noDirectory occupied => rfl
  | faulty results lies faulty => rfl
  | blocked results sound blocked fault => rfl
  | written results sound measured free made written =>
    -- Only this ending changes the tree, and it has both results and no fault.
    rcases nothing with failed | missing
    · exact absurd rfl failed
    · rw [results] at missing
      cases missing

/-- A tree whose report is up to date stays exactly as it is when the report is made again. -/
theorem makeReport_of_replaced (once : Unambiguous tree) (summary : Summarises tree rows)
    (results : tree.kind? resultsPath = some .directory) (sound : ¬EstimatesFlawed tree)
    (replaced : ReportReplaced tree (tableText rows) again) (listed : again.WellListed) :
    (makeReport again).fault = none ∧ (makeReport again).tree = again := by
  have same := replaced.sameResults
  have results : again.kind? resultsPath = some .directory :=
    (same resultsPath (List.prefix_refl _)).symm.trans results
  have present : again.kind? resultsPath ≠ none := by simp [results]
  have succeeds : (makeReport again).fault = none := by
    rw [makeReport_succeeds_iff listed, ← EstimatesFlawed.congr same]
    exact .inr ⟨results, sound, replaced.not_blocked⟩
  obtain ⟨others, prepared, otherSummary, made, written⟩ :=
    makeReport_writes listed present succeeds
  have equal : rows = others := summary.eq_of_sameResults otherSummary once same
  subst equal
  -- The directory is there, and the file holds what is written.
  have directory : again.kind? reportDirectory = some .directory := replaced reportDirectory
  have kept : prepared = again := by
    rw [FileTree.makeDirectory_of_directory directory, Except.ok.injEq] at made
    exact made.symm
  subst kept
  have report : prepared.kind? reportPath = some (.file (tableText rows).toUTF8) :=
    replaced reportPath
  rw [FileTree.writeFile_of_file report, Except.ok.injEq] at written
  exact ⟨succeeds, written.symm⟩

/--
Making a report leaves no trace when it fails, and otherwise changes nothing but the report.

The new report does not depend on the old one, nor on anything else outside of the results. So in
an unambiguous tree it can be made again without a change, in whichever order directories are
listed.
-/
theorem makeReport_replaces (listed : tree.WellListed) :
    ((makeReport tree).fault ≠ none ∨ tree.kind? resultsPath = none →
        (makeReport tree).tree = tree) ∧
      ((makeReport tree).fault = none → tree.kind? resultsPath ≠ none →
        ∃ rows, Summarises tree rows ∧
          ReportReplaced tree (tableText rows) (makeReport tree).tree ∧
          (Unambiguous tree →
            (∀ other, other.WellListed → SameResults tree other →
              (makeReport other).fault = none →
                (makeReport other).tree.text? reportPath = some (tableText rows)) ∧
            ∀ again, (makeReport tree).tree.Relisted again →
              (makeReport again).fault = none ∧ (makeReport again).tree = again ∧
                again.text? reportPath = some (tableText rows))) := by
  refine ⟨makeReport_untouched listed, fun succeeds present => ?_⟩
  obtain ⟨rows, prepared, summary, made, written⟩ := makeReport_writes listed present succeeds
  obtain ⟨results, sound, _⟩ := ((makeReport_succeeds_iff listed).mp succeeds).resolve_left present
  have replaced := replaced_of_written (rooted_of_results results) made written
  have leftListed := (listed.makeDirectory made).writeFile written
  refine ⟨rows, summary, replaced, fun once => ⟨?_, ?_⟩⟩
  · intro other otherListed same otherSucceeds
    have otherPresent : other.kind? resultsPath ≠ none := by
      rw [← same resultsPath (List.prefix_refl _)]
      exact present
    obtain ⟨others, _, otherSummary, _, otherWritten⟩ :=
      makeReport_writes otherListed otherPresent otherSucceeds
    have equal : rows = others := summary.eq_of_sameResults otherSummary once same
    rw [equal]
    exact text?_of_written otherWritten
  · intro again relisted
    have againReplaced := replaced.relisted leftListed relisted
    have againListed := relisted.wellListed leftListed
    obtain ⟨againSucceeds, kept⟩ :=
      makeReport_of_replaced once summary results sound againReplaced againListed
    have lies : again.kind? reportPath = some (.file (tableText rows).toUTF8) :=
      againReplaced reportPath
    exact ⟨againSucceeds, kept, FileTree.text?_of_kind? lies⟩

/-- The report of two groups is written, and the second one changes nothing. -/
theorem makeReport_twice_twoGroups :
    (twoGroups (estimatesText "100") (estimatesText "400")).WellListed ∧
      (makeReport (twoGroups (estimatesText "100") (estimatesText "400"))).tree.text? reportPath =
        some comparedText ∧
      (makeReport (makeReport (twoGroups (estimatesText "100") (estimatesText "400"))).tree).tree =
        (makeReport (twoGroups (estimatesText "100") (estimatesText "400"))).tree := by
  have listed := twoGroups_wellListed (estimatesText "100") (estimatesText "400")
  have once := unambiguous_twoGroups (estimatesText "100") (estimatesText "400")
  obtain ⟨rows, _, _, repeatable⟩ :=
    (makeReport_replaces listed).2 (by decide +kernel) (by decide +kernel)
  obtain ⟨_, kept, _⟩ := (repeatable once).2 _ (.same _)
  exact ⟨listed, by decide +kernel, kept⟩

end Unknowns
