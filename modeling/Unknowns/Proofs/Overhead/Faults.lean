import Unknowns.Proofs.Overhead.Making

/-! Making a report fails where it has to, whatever the order in which directories are listed. -/

namespace Unknowns

variable {tree other : FileTree}

/-- Trees with the same at every place have the place of the report taken alike. -/
theorem OutputBlocked.congr (same : ∀ path, tree.kind? path = other.kind? path) :
    OutputBlocked tree ↔ OutputBlocked other := by
  simp only [OutputBlocked, same]

/-- A report is made where there is nothing to do, and where nothing is wrong. -/
theorem makeReport_succeeds_iff (listed : tree.WellListed) :
    (makeReport tree).fault = none ↔
      tree.kind? resultsPath = none ∨
        tree.kind? resultsPath = some .directory ∧ ¬EstimatesFlawed tree ∧ ¬OutputBlocked tree := by
  have outcome := makeReport_outcome listed
  generalize (makeReport tree).fault = reported at outcome
  generalize (makeReport tree).tree = left at outcome
  cases outcome with
  | noResults missing => simp [missing]
  | noDirectory occupied => simp [occupied]
  | blocked results sound blocked fault => simp [results, blocked]
  | written results sound measured free made written =>
    simp [results, sound, free]
  | @faulty results file fault lies faulty =>
    have flawed : EstimatesFlawed tree :=
      ⟨file, lies, EstimateFile.flawed_iff.mpr ⟨fault, faulty⟩⟩
    simp [results, flawed]

/-- Where there are flawed estimates, one of the flawed files is blamed. -/
theorem makeReport_blames (listed : tree.WellListed)
    (results : tree.kind? resultsPath = some .directory) (flawed : EstimatesFlawed tree) :
    ∃ (file : EstimateFile) (fault : ReportFault), file.LiesIn tree ∧
      file.document = .error fault ∧ (makeReport tree).fault = some fault := by
  have outcome := makeReport_outcome listed
  generalize (makeReport tree).fault = reported at outcome ⊢
  generalize (makeReport tree).tree = left at outcome
  cases outcome with
  | noResults missing => rw [results] at missing; cases missing
  | noDirectory occupied => rw [results] at occupied; cases occupied
  | blocked _ sound _ _ => exact absurd flawed sound
  | written _ sound _ _ _ _ => exact absurd flawed sound
  | faulty _ lies faulty => exact ⟨_, _, lies, faulty, rfl⟩

/--
In whichever order the directories of a tree are listed, making its report fails in the same cases.

Without results there is nothing to do. With them only what lies in their place matters, what lies
in the place of the report, and the files of estimates: neither the description of a workload nor
estimates that lie elsewhere can make it fail. A flawed file of estimates is blamed for its own
flaw, before anything that is wrong with the place of the report.
-/
theorem makeReport_fails_iff (listed : tree.WellListed) (relisted : tree.Relisted other) :
    (tree.kind? resultsPath = none →
        (makeReport other).fault = none ∧ (makeReport other).tree = other) ∧
      (tree.kind? resultsPath ≠ none →
        ((makeReport other).fault ≠ none ↔
          tree.kind? resultsPath ≠ some .directory ∨ EstimatesFlawed tree ∨ OutputBlocked tree)) ∧
        (tree.kind? resultsPath = some .directory → EstimatesFlawed tree →
          ∃ (file : EstimateFile) (fault : ReportFault), file.LiesIn tree ∧
            (makeReport other).fault = some fault ∧
              (file.IsUnreadable ∧ fault.message = "Failed to read " ++ file.path.text ∨
                file.IsMalformed ∧ fault.message = "Failed to parse " ++ file.path.text)) := by
  have same := SameResults.of_relisted relisted listed
  -- All that matters is the same in either order, so one order is as good as the other.
  rw [relisted.kind? listed resultsPath, EstimatesFlawed.congr same,
    OutputBlocked.congr (relisted.kind? listed)]
  have otherListed := relisted.wellListed listed
  refine ⟨fun missing => ?_, fun present => ?_, fun results flawed => ?_⟩
  · have nowhere := FileTree.kind?_eq_none_iff.mp missing
    simp only [makeReport, nowhere, and_self]
  · simp only [Ne, makeReport_succeeds_iff otherListed, present, false_or,
      Classical.not_and_iff_not_or_not, Classical.not_not]
  · obtain ⟨file, fault, lies, faulty, blamed⟩ := makeReport_blames otherListed results flawed
    refine ⟨file, fault, lies.congr same.symm, blamed, ?_⟩
    rcases EstimateFile.document_eq_error_iff.mp faulty with
      ⟨unreadable, rfl⟩ | ⟨malformed, rfl⟩
    · exact .inl ⟨unreadable, rfl⟩
    · exact .inr ⟨malformed, rfl⟩

/-- The second of two groups has malformed estimates, and is the first one to be listed. -/
theorem makeReport_fails_of_malformed :
    (twoGroups (estimatesText "100") "mean: 400").WellListed ∧
      (twoGroups (estimatesText "100") "mean: 400").Relisted
        (resultsTree [groupRun "b" .tracing "mean: 400",
          groupRun "a" .plain (estimatesText "100")]) ∧
      (makeReport (resultsTree [groupRun "b" .tracing "mean: 400",
        groupRun "a" .plain (estimatesText "100")])).fault ≠ none := by
  have listed := twoGroups_wellListed (estimatesText "100") "mean: 400"
  have relisted := resultsTree_relisted (List.Perm.swap (groupRun "b" .tracing "mean: 400")
    (groupRun "a" .plain (estimatesText "100")) [])
  have malformed : (groupFile "b" .tracing "mean: 400").IsMalformed :=
    ⟨"mean: 400", by decide +kernel, by decide +kernel⟩
  have flawed : EstimatesFlawed (twoGroups (estimatesText "100") "mean: 400") :=
    ⟨_, liesIn_twoGroups_iff.mpr (.inr rfl), .inr malformed⟩
  have fails := (makeReport_fails_iff listed relisted).2.1 (by decide +kernel)
  exact ⟨listed, relisted, fails.mpr (.inr (.inl flawed))⟩

end Unknowns
