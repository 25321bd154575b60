import Unknowns.Overhead.Report
import Unknowns.Proofs.FileTree.Writing
import Unknowns.Proofs.Overhead.Estimates

/-! Everything that making a report can come to, and the tree that each of its endings leaves. -/

namespace Unknowns

variable {tree after emptied prepared results : FileTree} {measurements : List Measurement}
  {text : String}

/-- Lines that follow what was written leave what writing all at once would have left. -/
private theorem run_addLines {content : ByteArray}
    (written : tree.writeFile content reportPath = .ok emptied) (lines : List String) :
    ∃ after, (lines.forM addLine).run emptied = .ok () after ∧
      tree.writeFile (content ++ (String.join (lines.map fun line => line ++ "\n")).toUTF8)
        reportPath = .ok after := by
  -- What was written grows by a line with each step.
  induction lines generalizing content emptied with
  | nil => exact ⟨emptied, rfl, by simpa using written⟩
  | cons line rest ih =>
    have longer := FileTree.writeFile_appendFile written (line ++ "\n").toUTF8
    obtain ⟨after, run, all⟩ := ih longer
    refine ⟨after, run, ?_⟩
    rw [← all, ByteArray.append_assoc, List.map_cons, String.join_cons]
    simp only [String.toUTF8, String.toByteArray_append]

/-- The outcome of the steps of a report that lie behind the making of its directory. -/
private theorem run_writeLines (prepared : FileTree) (measurements : List Measurement) :
    (do Reporting.change (·.writeFile .empty reportPath) fun _ => .outputFile reportPath
        (reportLines measurements).forM addLine : Reporting Unit).run prepared =
      match prepared.writeFile (reportText measurements).toUTF8 reportPath with
      | .ok written => .ok () written
      | .error _ => .error (.outputFile reportPath) prepared := by
  rw [EStateM.run_bind]
  cases opened : prepared.writeFile .empty reportPath with
  | ok emptied =>
    obtain ⟨after, run, all⟩ := run_addLines opened (reportLines measurements)
    rw [ByteArray.empty_append] at all
    simp only [EStateM.run, Reporting.change, opened, reportText, all]
    exact run
  | error reason =>
    -- Whether a file can be written does not depend on what is written.
    have failed : ∃ other, prepared.writeFile (reportText measurements).toUTF8 reportPath =
        .error other :=
      FileTree.writeFile_fails_iff.mpr (FileTree.writeFile_fails_iff.mp ⟨reason, opened⟩)
    obtain ⟨other, failed⟩ := failed
    simp only [EStateM.run, Reporting.change, opened, failed]

/-- A report is written as a directory and a file: the second is not tried when the first fails. -/
theorem run_writeReport (tree : FileTree) (measurements : List Measurement) :
    (writeReport measurements).run tree =
      match tree.makeDirectory reportDirectory with
      | .error reason => .error (.outputPath reason) tree
      | .ok prepared =>
        match prepared.writeFile (reportText measurements).toUTF8 reportPath with
        | .ok written => .ok () written
        | .error _ => .error (.outputFile reportPath) prepared := by
  rw [writeReport, EStateM.run_bind]
  cases made : tree.makeDirectory reportDirectory with
  | error reason => simp only [EStateM.run, Reporting.change, made]
  | ok prepared =>
    simp only [← run_writeLines]
    simp only [EStateM.run, Reporting.change, made]

/-- A tree has a report in its place, in a directory of its own, and else what was there before. -/
def ReportReplaced (tree : FileTree) (text : String) (after : FileTree) : Prop :=
  ∀ place, after.kind? place =
    if place = reportPath then some (.file text.toUTF8)
    else if place = reportDirectory then some .directory
    else tree.kind? place

/-- A report that is written changes nothing but what lies in its own place. -/
theorem replaced_of_written (rooted : tree.kind? [] = some .directory)
    (made : tree.makeDirectory reportDirectory = .ok prepared)
    (written : prepared.writeFile text.toUTF8 reportPath = .ok after) :
    ReportReplaced tree text after := by
  intro place
  -- The one directory on the way to the report's is the root.
  have prefixes : place <+: reportDirectory ↔ place = [] ∨ place = reportDirectory := by
    constructor
    · intro before
      rcases List.prefix_cons_iff.mp before with rfl | ⟨later, rfl, shorter⟩
      · exact .inl rfl
      · rw [List.prefix_nil.mp shorter]
        exact .inr rfl
    · rintro (rfl | rfl)
      · exact List.nil_prefix
      · exact List.prefix_refl _
  rw [FileTree.kind?_writeFile written, FileTree.kind?_makeDirectory made]
  by_cases report : place = reportPath
  · rw [if_pos report, if_pos report]
  · rw [if_neg report, if_neg report]
    have shorter : place <+: reportPath ↔ place <+: reportDirectory := by
      rw [reportPath, List.prefix_concat_iff]
      exact or_iff_right report
    simp only [shorter, prefixes]
    by_cases directory : place = reportDirectory
    · simp [directory]
    · by_cases root : place = []
      · simp [root, rooted]
      · simp [root, directory]

/-- A file that holds the bytes of a text is read as this text. -/
theorem FileTree.text?_of_kind? {path : Path} (lies : tree.kind? path = some (.file text.toUTF8)) :
    tree.text? path = some text := by
  rw [FileTree.text?, FileTree.content?_eq_some_iff.mpr lies]
  exact dif_pos text.isValidUTF8

/-- A report that is written can be read again. -/
theorem text?_of_written (written : prepared.writeFile text.toUTF8 reportPath = .ok after) :
    after.text? reportPath = some text := by
  apply FileTree.text?_of_kind?
  rw [FileTree.kind?_writeFile written, if_pos rfl]

/-- The place of the report is taken: its directory's by a file, or its file's by a directory. -/
def OutputBlocked (tree : FileTree) : Prop :=
  (∃ content, tree.kind? reportDirectory = some (.file content)) ∨
    tree.kind? reportPath = some .directory

/-- A directory lies at each place that something lies below. -/
private theorem kind?_reportDirectory (blocked : tree.kind? reportPath = some .directory) :
    tree.kind? reportDirectory = some .directory := by
  rw [reportPath, FileTree.kind?_append, Option.bind_eq_some_iff] at blocked
  obtain ⟨below, found, lies⟩ := blocked
  rw [FileTree.kind?, found]
  cases below with
  | file content => cases lies
  | directory entries => rfl

/-- Writing a report fails when its place is taken, and then leaves no trace. -/
theorem writeReport_cases (rooted : tree.kind? [] = some .directory)
    (measurements : List Measurement) :
    (OutputBlocked tree ∧ ∃ fault, (writeReport measurements).run tree = .error fault tree) ∨
      ¬OutputBlocked tree ∧ ∃ prepared after,
        tree.makeDirectory reportDirectory = .ok prepared ∧
          prepared.writeFile (reportText measurements).toUTF8 reportPath = .ok after ∧
            (writeReport measurements).run tree = .ok () after := by
  rw [run_writeReport]
  cases made : tree.makeDirectory reportDirectory with
  | error reason =>
    obtain ⟨place, before, content, lies⟩ := FileTree.makeDirectory_fails_iff.mp ⟨reason, made⟩
    refine .inl ⟨.inl ⟨content, ?_⟩, _, rfl⟩
    -- The file in the way is not the root, which is a directory.
    rcases List.prefix_cons_iff.mp before with rfl | ⟨later, rfl, shorter⟩
    · rw [rooted] at lies
      cases lies
    · rw [List.prefix_nil.mp shorter] at lies
      exact lies
  | ok prepared =>
    have lies := FileTree.kind?_makeDirectory made
    have usable : ∀ content, tree.kind? reportDirectory ≠ some (.file content) := by
      intro content occupied
      obtain ⟨reason, failed⟩ := FileTree.makeDirectory_fails_iff.mpr
        ⟨reportDirectory, List.prefix_refl _, content, occupied⟩
      rw [made] at failed
      cases failed
    have kept : prepared.kind? reportPath = tree.kind? reportPath := by
      rw [lies, if_neg (by decide)]
    cases written : prepared.writeFile (reportText measurements).toUTF8 reportPath with
    | error reason =>
      rcases FileTree.writeFile_fails_iff.mp ⟨reason, written⟩ with
        taken | ⟨place, before, proper, content, inTheWay⟩
      · rw [kept] at taken
        -- The directory of what takes the place was there before, and nothing was made.
        have same := FileTree.makeDirectory_of_directory (kind?_reportDirectory taken)
        rw [made, Except.ok.injEq] at same
        subst same
        exact .inl ⟨.inr taken, .outputFile reportPath, by simp only [written]⟩
      · have above : place <+: reportDirectory := by
          rw [reportPath, List.prefix_concat_iff] at before
          exact before.resolve_left proper
        rw [lies, if_pos above] at inTheWay
        cases inTheWay
    | ok after =>
      refine .inr ⟨?_, prepared, after, rfl, written, by simp only [written]⟩
      rintro (⟨content, occupied⟩ | taken)
      · exact usable content occupied
      · obtain ⟨reason, failed⟩ := FileTree.writeFile_fails_iff.mpr (.inl (kept ▸ taken))
        rw [written] at failed
        cases failed

/-- A tree that has results is a directory itself. -/
theorem rooted_of_results (results : tree.kind? resultsPath = some .directory) :
    tree.kind? [] = some .directory := by
  cases tree with
  | file content => cases results
  | directory entries => rfl

/-- What making a report comes to: its fault, if there is one, and the tree that it leaves. -/
inductive ReportOutcome (tree : FileTree) : Option ReportFault → FileTree → Prop
  | noResults (missing : tree.kind? resultsPath = none) : ReportOutcome tree none tree
  | noDirectory {content : ByteArray} (occupied : tree.kind? resultsPath = some (.file content)) :
      ReportOutcome tree (some .resultsNotADirectory) tree
  | faulty (results : tree.kind? resultsPath = some .directory) {file : EstimateFile}
      {fault : ReportFault} (lies : file.LiesIn tree) (faulty : file.document = .error fault) :
      ReportOutcome tree (some fault) tree
  | blocked (results : tree.kind? resultsPath = some .directory) (sound : ¬EstimatesFlawed tree)
      (blocked : OutputBlocked tree) (fault : ReportFault) : ReportOutcome tree (some fault) tree
  | written (results : tree.kind? resultsPath = some .directory) (sound : ¬EstimatesFlawed tree)
      {measurements : List Measurement} (measured : Measured tree measurements)
      (free : ¬OutputBlocked tree) {prepared after : FileTree}
      (made : tree.makeDirectory reportDirectory = .ok prepared)
      (written : prepared.writeFile (reportText measurements).toUTF8 reportPath = .ok after) :
      ReportOutcome tree none after

/-- Nothing is written when a file of estimates faults. -/
private theorem run_reportOn_of_error {entries : List (String × FileTree)} {fault : ReportFault}
    (failed : collectMeasurements tree (.directory entries) = .error fault) :
    (reportOn (.directory entries)).run tree = .error fault tree := by
  simp only [reportOn, EStateM.run_bind, EStateM.run_get, failed]
  rfl

/-- Measurements that were collected are written. -/
private theorem run_reportOn_of_ok {entries : List (String × FileTree)}
    (collected : collectMeasurements tree (.directory entries) = .ok measurements) :
    (reportOn (.directory entries)).run tree = (writeReport measurements).run tree := by
  simp only [reportOn, EStateM.run_bind, EStateM.run_get, collected]

private theorem makeReport_of_error (found : tree.find? resultsPath = some results)
    {fault : ReportFault} (run : (reportOn results).run tree = .error fault after) :
    (makeReport tree).fault = some fault ∧ (makeReport tree).tree = after := by
  simp only [makeReport, found, run, and_self]

private theorem makeReport_of_ok (found : tree.find? resultsPath = some results)
    (run : (reportOn results).run tree = .ok () after) :
    (makeReport tree).fault = none ∧ (makeReport tree).tree = after := by
  simp only [makeReport, found, run, and_self]

/-- Making a report comes to one of its outcomes. -/
theorem makeReport_outcome (listed : tree.WellListed) :
    ReportOutcome tree (makeReport tree).fault (makeReport tree).tree := by
  cases found : tree.find? resultsPath with
  | none =>
    simp only [makeReport, found]
    exact .noResults (FileTree.kind?_eq_none_iff.mpr found)
  | some results =>
    cases results with
    | file content =>
      have run : (reportOn (.file content)).run tree = .error .resultsNotADirectory tree := rfl
      obtain ⟨fault, left⟩ := makeReport_of_error found run
      rw [fault, left]
      exact .noDirectory (FileTree.kind?_eq_file_iff.mpr found)
    | directory entries =>
      have directory : tree.kind? resultsPath = some .directory :=
        FileTree.kind?_eq_directory_iff.mpr ⟨entries, found⟩
      rcases collectMeasurements_cases listed found with
        ⟨measurements, collected, sound, measured⟩ | ⟨fault, failed, file, lies, faulty⟩
      · have run := run_reportOn_of_ok collected
        rcases writeReport_cases (rooted_of_results directory) measurements with
          ⟨blocked, fault, failed⟩ | ⟨free, prepared, after, made, written, ended⟩
        · obtain ⟨reported, left⟩ := makeReport_of_error found (run.trans failed)
          rw [reported, left]
          exact .blocked directory sound blocked fault
        · obtain ⟨reported, left⟩ := makeReport_of_ok found (run.trans ended)
          rw [reported, left]
          exact .written directory sound measured free made written
      · obtain ⟨reported, left⟩ := makeReport_of_error found (run_reportOn_of_error failed)
        rw [reported, left]
        exact .faulty directory lies faulty

end Unknowns
