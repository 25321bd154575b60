import Unknowns.Overhead.Measurement
import Unknowns.Proofs.FileTree.Listing

/-! The walk meets each file of estimates, wherever it lies and whatever is listed first. -/

namespace Unknowns

variable {tree other results : FileTree}

/-- The baseline of a name is the one with this name. -/
theorem Baseline.ofName?_eq_some_iff {name : String} {baseline : Baseline} :
    Baseline.ofName? name = some baseline ↔ baseline.name = name := by
  cases baseline <;> simp [ofName?, all, Baseline.name, List.find?_cons] <;> grind

/-- Two trees with the same files and directories below the results. -/
def SameResults (tree other : FileTree) : Prop :=
  ∀ path, resultsPath <+: path → tree.kind? path = other.kind? path

/-- A tree has the same results however it is listed. -/
theorem SameResults.of_relisted (relisted : tree.Relisted other) (listed : tree.WellListed) :
    SameResults tree other :=
  fun path _ => relisted.kind? listed path

theorem SameResults.symm (same : SameResults tree other) : SameResults other tree :=
  fun path below => (same path below).symm

/-- Bytes are the text of a document that has this number behind a chain of keys. -/
def HasNumber (content : ByteArray) (keys : List String) (number : Binary64) : Prop :=
  ∃ text document value, String.fromUTF8? content = some text ∧
    Document.read? text = some document ∧ document.at? keys = some value ∧
      value.number? = some number

/-- Whether bytes have a number is found by reading them. -/
theorem hasNumber_iff {content : ByteArray} {keys : List String} {number : Binary64} :
    HasNumber content keys number ↔
      (((String.fromUTF8? content).bind Document.read?).bind (Document.at? keys)).bind
        Document.number? = some number := by
  simp only [HasNumber, Option.bind_eq_some_iff]
  constructor
  · rintro ⟨text, document, value, decoded, read, held, known⟩
    exact ⟨value, ⟨document, ⟨text, decoded, read⟩, held⟩, known⟩
  · rintro ⟨value, ⟨document, ⟨text, decoded, read⟩, held⟩, known⟩
    exact ⟨text, document, value, decoded, read, held, known⟩

instance (content : ByteArray) (keys : List String) (number : Binary64) :
    Decidable (HasNumber content keys number) :=
  decidable_of_iff' _ hasNumber_iff

/-- Behind a chain of keys there is one number at most. -/
theorem HasNumber.unique {content : ByteArray} {keys : List String} {number other : Binary64}
    (has : HasNumber content keys number) (hasToo : HasNumber content keys other) :
    number = other :=
  Option.some.inj ((hasNumber_iff.mp has).symm.trans (hasNumber_iff.mp hasToo))

/-- The file that describes the workload of a directory has this content. -/
def Describes (tree : FileTree) (directory : Path) (content : ByteArray) : Prop :=
  tree.kind? (directory ++ ["benchmark.json"]) = some (.file content)

/-- The keys of the number of elements in a description. -/
def elementsKeys : List String := ["throughput", "Elements"]

/-- The keys of the mean time in a file of estimates. -/
def meanKeys : List String := ["mean", "point_estimate"]

/-- The number of elements that the description in a directory declares, or one without any. -/
inductive ElementsOf (tree : FileTree) (directory : Path) : Binary64 → Prop
  | declared {content : ByteArray} {elements : Binary64}
      (describes : Describes tree directory content)
      (number : HasNumber content elementsKeys elements) : ElementsOf tree directory elements
  -- There may be no description at all, or none that can be read, or one without the number.
  | undeclared (missing : ∀ content elements, Describes tree directory content →
      ¬HasNumber content elementsKeys elements) : ElementsOf tree directory (Binary64.ofNat 1)

/-- The number of elements is declared by a document in the directory of the workload. -/
theorem declaredElements?_eq_some_iff {workloadPath : Path} {elements : Binary64} :
    declaredElements? tree workloadPath = some elements ↔
      ∃ content, Describes tree workloadPath content ∧
        HasNumber content elementsKeys elements := by
  simp only [declaredElements?, FileTree.document?, FileTree.text?, Option.bind_eq_bind,
    Option.bind_eq_some_iff, FileTree.content?_eq_some_iff]
  constructor
  · rintro ⟨description, ⟨text, ⟨content, lies, decoded⟩, read⟩, number, held, known⟩
    exact ⟨content, lies, text, description, number, decoded, read, held, known⟩
  · rintro ⟨content, lies, text, description, number, decoded, read, held, known⟩
    exact ⟨description, ⟨text, ⟨content, lies, decoded⟩, read⟩, number, held, known⟩

/-- The elements of a directory are those that are found there, or one. -/
theorem elementsOf_iff {directory : Path} {elements : Binary64} :
    ElementsOf tree directory elements ↔
      (declaredElements? tree directory).getD (Binary64.ofNat 1) = elements := by
  -- What the reader finds is declared, and what is declared the reader finds.
  constructor
  · rintro (⟨describes, number⟩ | missing)
    · rw [declaredElements?_eq_some_iff.mpr ⟨_, describes, number⟩, Option.getD_some]
    · cases found : declaredElements? tree directory with
      | none => rw [Option.getD_none]
      | some other =>
        obtain ⟨content, describes, number⟩ := declaredElements?_eq_some_iff.mp found
        exact absurd number (missing content other describes)
  · rintro rfl
    cases found : declaredElements? tree directory with
    | none =>
      rw [Option.getD_none]
      refine .undeclared fun content elements describes number => ?_
      rw [declaredElements?_eq_some_iff.mpr ⟨content, describes, number⟩] at found
      cases found
    | some elements =>
      obtain ⟨content, describes, number⟩ := declaredElements?_eq_some_iff.mp found
      exact .declared describes number

namespace EstimateFile

variable {file : EstimateFile} {time : Binary64}

/-- A file of estimates lies in a tree: below the results, a workload, and one of its baselines. -/
structure LiesIn (tree : FileTree) (file : EstimateFile) : Prop where
  below : resultsPath <+: file.workloadPath
  workload : file.workloadPath.getLast? = some file.workload
  path : file.path = file.workloadPath ++ [file.baseline.name, "estimates.json"]
  content : tree.content? file.path = some file.content
  notSummary : file.workload ≠ "report"

/-- A file of estimates counts with a mean time that is positive. -/
structure CountsIn (tree : FileTree) (file : EstimateFile) (time : Binary64) : Prop where
  lies : file.LiesIn tree
  mean : HasNumber file.content meanKeys time
  positive : (Binary64.zero false).isBelow time = true

/-- The rate of a workload with a mean time; it counts as one element if none is declared. -/
def rate (tree : FileTree) (file : EstimateFile) (time : Binary64) : Rate :=
  rateOf ((declaredElements? tree file.workloadPath).getD (Binary64.ofNat 1)) time

/-- A mean time in nanoseconds gives a workload this many of its elements per second. -/
def Rates (tree : FileTree) (file : EstimateFile) (time : Binary64) (rate : Rate) : Prop :=
  ∃ elements, ElementsOf tree file.workloadPath elements ∧
    rate = (elements.mul (Binary64.ofNat 1000000000)).div time

/-- The rate of a workload is the number of elements per second that its mean time gives it. -/
theorem rates_iff {rate : Rate} : file.Rates tree time rate ↔ file.rate tree time = rate := by
  simp only [Rates, elementsOf_iff, exists_eq_left']
  exact eq_comm

/-- The mean time that a file of estimates has is that of its document. -/
theorem hasNumber_mean_iff :
    HasNumber file.content meanKeys time ↔
      ∃ estimates, file.document = .ok estimates ∧ meanTime? estimates = some time := by
  -- A file that is no text, or whose text is no document, has no numbers at all.
  rw [hasNumber_iff]
  unfold document meanTime?
  cases read : String.fromUTF8? file.content with
  | none => simp
  | some text => cases parsed : Document.read? text <;> simp [parsed, meanKeys]

/-- Estimates are recognised by the last three names of their path. -/
theorem ofFile?_eq_some_iff {entry : Path × ByteArray} :
    ofFile? entry = some file ↔
      entry = (file.path, file.content) ∧
        file.workloadPath.getLast? = some file.workload ∧
        file.path = file.workloadPath ++ [file.baseline.name, "estimates.json"] ∧
        file.workload ≠ "report" := by
  obtain ⟨place, bytes⟩ := entry
  constructor
  · -- Recognising splits three names off the end, which are put back here.
    intro recognised
    unfold ofFile? at recognised
    split at recognised
    · rename_i baselineName workload above names
      rw [Option.bind_eq_bind, Option.bind_eq_some_iff] at recognised
      obtain ⟨baseline, named, recognised⟩ := recognised
      split at recognised
      · cases recognised
      · rename_i counted
        rw [Option.some.injEq] at recognised
        subst recognised
        have path : place = above.reverse ++ [workload, baselineName, "estimates.json"] := by
          simpa using List.reverse_eq_cons_iff.mp names
        simp [Baseline.ofName?_eq_some_iff.mp named, counted, path]
    · cases recognised
  · -- The other way around, the last three names are given, and splitting finds them.
    rintro ⟨same, last, path, counted⟩
    obtain ⟨filePath, content, baseline, workload, workloadPath⟩ := file
    simp only at path last counted
    obtain ⟨above, rfl⟩ := List.getLast?_eq_some_iff.mp last
    cases same
    have named : Baseline.ofName? baseline.name = some baseline :=
      Baseline.ofName?_eq_some_iff.mpr rfl
    simp [ofFile?, path, named, counted]

/-- Below the results, a baseline's directory lies in a workload's that is below them as well. -/
private theorem prefix_workloadPath {rest workloadPath : Path} {workload : String}
    {baseline : Baseline} (last : workloadPath.getLast? = some workload)
    (path : resultsPath ++ rest = workloadPath ++ [baseline.name, "estimates.json"]) :
    resultsPath <+: workloadPath := by
  obtain ⟨above, rfl⟩ := List.getLast?_eq_some_iff.mp last
  -- No baseline is called what the directory of the results is called.
  have differ : "criterion" ≠ baseline.name := by cases baseline <;> decide
  match above with
  | [] => simp [resultsPath, differ] at path
  | [first] =>
    simp only [resultsPath, List.cons_append, List.nil_append, List.cons.injEq] at path
    simp [resultsPath, path.1, path.2.1]
  | first :: second :: above =>
    simp only [resultsPath, List.cons_append, List.nil_append, List.cons.injEq] at path
    simp [resultsPath, path.1, path.2.1]

/-- The walk meets exactly the files of estimates that lie below the results. -/
theorem mem_estimateFiles (listed : tree.WellListed)
    (found : tree.find? resultsPath = some results) :
    file ∈ estimateFiles results ↔ file.LiesIn tree := by
  have below := listed.find? found
  simp only [estimateFiles, List.mem_filterMap, ofFile?_eq_some_iff]
  constructor
  · -- What the walk meets lies below the results, and so does the workload's directory.
    rintro ⟨_, walked, rfl, last, path, counted⟩
    obtain ⟨rest, place, content⟩ := (FileTree.mem_filesFrom below).mp walked
    refine ⟨prefix_workloadPath last (place ▸ path), last, path, ?_, counted⟩
    rw [FileTree.content?_eq_some_iff] at content ⊢
    rw [place, FileTree.kind?_append, found, Option.bind_some, content]
  · -- What lies below the results is met along the rest of its path.
    intro lies
    obtain ⟨rest, above⟩ := lies.below
    have place : file.path = resultsPath ++ (rest ++ [file.baseline.name, "estimates.json"]) := by
      rw [lies.path, ← above, List.append_assoc]
    refine ⟨_, (FileTree.mem_filesFrom below).mpr ⟨_, place, ?_⟩, rfl, lies.workload, lies.path,
      lies.notSummary⟩
    have content := FileTree.content?_eq_some_iff.mp lies.content
    rw [place, FileTree.kind?_append, found, Option.bind_some] at content
    exact FileTree.content?_eq_some_iff.mpr content

/-- The same files of estimates lie in trees with the same results. -/
theorem LiesIn.congr (same : SameResults tree other) (lies : file.LiesIn tree) :
    file.LiesIn other where
  below := lies.below
  workload := lies.workload
  path := lies.path
  notSummary := lies.notSummary
  content := by
    have below : resultsPath <+: file.path := lies.path ▸ lies.below.trans (List.prefix_append _ _)
    rw [← lies.content]
    exact (FileTree.content?_congr (same file.path below)).symm

/-- The same files of estimates count in trees with the same results. -/
theorem CountsIn.congr (same : SameResults tree other) (counts : file.CountsIn tree time) :
    file.CountsIn other time :=
  ⟨counts.lies.congr same, counts.mean, counts.positive⟩

/-- Rates are the same in trees with the same results. -/
theorem rate_congr (same : SameResults tree other) (lies : file.LiesIn tree) :
    file.rate tree time = file.rate other time := by
  have below : resultsPath <+: file.workloadPath ++ ["benchmark.json"] :=
    lies.below.trans (List.prefix_append _ _)
  have declared : declaredElements? tree file.workloadPath =
      declaredElements? other file.workloadPath := by
    ext1 elements
    simp only [declaredElements?_eq_some_iff, Describes, same _ below]
  rw [rate, rate, declared]

/-- A file that is no text. -/
def IsUnreadable (file : EstimateFile) : Prop :=
  String.fromUTF8? file.content = none

/-- A file whose text is no document. -/
def IsMalformed (file : EstimateFile) : Prop :=
  ∃ text, String.fromUTF8? file.content = some text ∧ Document.read? text = none

/-- A file of estimates faults when it is no text, and when its text is no document. -/
theorem document_eq_error_iff {fault : ReportFault} :
    file.document = .error fault ↔
      file.IsUnreadable ∧ fault = .unreadable file.path ∨
        file.IsMalformed ∧ fault = .malformed file.path := by
  unfold document IsUnreadable IsMalformed
  cases read : String.fromUTF8? file.content with
  | none => simp [eq_comm]
  | some text => cases parsed : Document.read? text <;> simp [parsed, eq_comm]

/-- A file of estimates is flawed exactly when its document cannot be read. -/
theorem flawed_iff :
    file.IsUnreadable ∨ file.IsMalformed ↔ ∃ fault, file.document = .error fault := by
  simp only [document_eq_error_iff, exists_or, exists_and_left, exists_eq, and_true]

end EstimateFile

/-- Some file of estimates in a tree is no text, or its text is no document. -/
def EstimatesFlawed (tree : FileTree) : Prop :=
  ∃ file : EstimateFile, file.LiesIn tree ∧ (file.IsUnreadable ∨ file.IsMalformed)

/-- Trees with the same results have flawed estimates alike. -/
theorem EstimatesFlawed.congr (same : SameResults tree other) :
    EstimatesFlawed tree ↔ EstimatesFlawed other := by
  constructor
  · rintro ⟨file, lies, flawed⟩
    exact ⟨file, lies.congr same, flawed⟩
  · rintro ⟨file, lies, flawed⟩
    exact ⟨file, lies.congr same.symm, flawed⟩

/-- A rate is measured when the mean time is positive. -/
theorem measuredRate?_eq_some_iff {elements : Option Binary64} {estimates : Document}
    {rate : Rate} :
    measuredRate? elements estimates = some rate ↔
      ∃ time, meanTime? estimates = some time ∧ (Binary64.zero false).isBelow time = true ∧
        rate = rateOf (elements.getD (Binary64.ofNat 1)) time := by
  unfold measuredRate?
  cases meanTime? estimates with
  | none =>
    -- A missing mean stands for zero, which is not positive.
    simp only [Option.getD_none, Binary64.isBelow_self]
    simp
  | some time =>
    simp only [Option.getD_some, Option.some.injEq, exists_eq_left']
    by_cases positive : (Binary64.zero false).isBelow time = true
    · simp only [positive, if_true, true_and, Option.some.injEq]
      exact eq_comm
    · simp only [positive, if_false, false_and, reduceCtorEq]

/-- What a file of estimates measures, once its document can be read. -/
theorem EstimateFile.measure_eq_map (tree : FileTree) (file : EstimateFile) :
    file.measure tree = file.document.map fun estimates =>
      (measuredRate? (declaredElements? tree file.workloadPath) estimates).map
        (⟨file.workload, file.baseline, ·⟩) := by
  unfold measure
  cases file.document <;> rfl

/-- A file measures a rate when it holds a mean time that is positive. -/
theorem EstimateFile.measure_eq_some_iff {file : EstimateFile} {measurement : Measurement} :
    file.measure tree = .ok (some measurement) ↔
      ∃ time, HasNumber file.content meanKeys time ∧ (Binary64.zero false).isBelow time = true ∧
        measurement = ⟨file.workload, file.baseline, file.rate tree time⟩ := by
  simp only [measure_eq_map, hasNumber_mean_iff]
  cases file.document with
  | error fault => simp [Except.map]
  | ok estimates =>
    simp only [Except.map, Except.ok.injEq, Option.map_eq_some_iff, measuredRate?_eq_some_iff,
      exists_eq_left', rate]
    constructor
    · rintro ⟨_, ⟨time, mean, positive, rfl⟩, rfl⟩
      exact ⟨time, mean, positive, rfl⟩
    · rintro ⟨time, mean, positive, rfl⟩
      exact ⟨_, ⟨time, mean, positive, rfl⟩, rfl⟩

/-- Either every element of a list has a result, or the first fault among them is the result. -/
private theorem mapM_cases {α β ε : Type} (f : α → Except ε β) (elements : List α) :
    (∃ results, elements.mapM f = .ok results ∧
        (∀ element ∈ elements, ∃ result, f element = .ok result) ∧
        ∀ result, result ∈ results ↔ ∃ element ∈ elements, f element = .ok result) ∨
      ∃ fault, elements.mapM f = .error fault ∧ ∃ element ∈ elements, f element = .error fault := by
  induction elements with
  | nil => exact .inl ⟨[], rfl, by simp, by simp⟩
  | cons head rest ih =>
    rw [List.mapM_cons]
    -- The first fault ends it all, so the rest matters only behind a result.
    cases first : f head with
    | error fault => exact .inr ⟨fault, rfl, head, List.mem_cons_self, first⟩
    | ok result =>
      rcases ih with ⟨results, made, all, members⟩ | ⟨fault, failed, element, member, faulty⟩
      · refine .inl ⟨result :: results, by rw [made]; rfl,
          List.forall_mem_cons.mpr ⟨⟨result, first⟩, all⟩, ?_⟩
        intro other
        simp [members, first, eq_comm]
      · exact .inr ⟨fault, by rw [failed]; rfl, element, List.mem_cons_of_mem _ member, faulty⟩

/-- A list has the measurement of each file that counts, and no others. -/
def Measured (tree : FileTree) (measurements : List Measurement) : Prop :=
  ∀ measurement, measurement ∈ measurements ↔
    ∃ (file : EstimateFile) (time : Binary64), file.CountsIn tree time ∧
      measurement = ⟨file.workload, file.baseline, file.rate tree time⟩

/-- Collecting ends with all measurements, or with the fault of one of the files. -/
theorem collectMeasurements_cases (listed : tree.WellListed)
    (found : tree.find? resultsPath = some results) :
    (∃ measurements, collectMeasurements tree results = .ok measurements ∧
        ¬EstimatesFlawed tree ∧ Measured tree measurements) ∨
      ∃ fault, collectMeasurements tree results = .error fault ∧
        ∃ file : EstimateFile, file.LiesIn tree ∧ file.document = .error fault := by
  unfold collectMeasurements
  rcases mapM_cases (fun file => file.measure tree) (estimateFiles results) with
    ⟨measured, made, all, members⟩ | ⟨fault, failed, file, member, faulty⟩
  · refine .inl ⟨measured.filterMap id, by rw [made]; rfl, ?_, ?_⟩
    · rintro ⟨file, lies, flawed⟩
      obtain ⟨fault, faulty⟩ := EstimateFile.flawed_iff.mp flawed
      -- Every file was measured, which none is whose document faults.
      have member := (EstimateFile.mem_estimateFiles listed found).mpr lies
      obtain ⟨result, measured⟩ := all file member
      rw [file.measure_eq_map, faulty] at measured
      cases measured
    · intro measurement
      simp only [List.mem_filterMap, id, exists_eq_right, members,
        EstimateFile.mem_estimateFiles listed found, EstimateFile.measure_eq_some_iff]
      constructor
      · rintro ⟨file, lies, time, mean, positive, same⟩
        exact ⟨file, time, ⟨lies, mean, positive⟩, same⟩
      · rintro ⟨file, time, ⟨lies, mean, positive⟩, same⟩
        exact ⟨file, lies, time, mean, positive, same⟩
  · refine .inr ⟨fault, by rw [failed]; rfl, file,
      (EstimateFile.mem_estimateFiles listed found).mp member, ?_⟩
    rw [file.measure_eq_map] at faulty
    cases read : file.document with
    | error other =>
      rw [read] at faulty
      cases faulty
      rfl
    | ok estimates => rw [read] at faulty; cases faulty

/-- The text of estimates with this mean time. -/
def estimatesText (time : String) : String :=
  "\x7b\"mean\":\x7b\"point_estimate\":" ++ time ++ "\x7d\x7d"

/-- The text of a description that declares this number of elements. -/
def descriptionText (elements : String) : String :=
  "\x7b\"throughput\":\x7b\"Elements\":" ++ elements ++ "\x7d\x7d"

/-- One run of the case `16` of a benchmark group: its name, and what was estimated. -/
def groupRun (group : String) (baseline : Baseline) (text : String) : String × FileTree :=
  (group, .directory [("16", .directory
    [(baseline.name, .directory [("estimates.json", .file text.toUTF8)])])])

/-- A tree with nothing but results. -/
def resultsTree (groups : List (String × FileTree)) : FileTree :=
  .directory [("target", .directory [("criterion", .directory groups)])]

/-- Two groups have a case of one name; that of the first ran plainly, that of the second traced. -/
def twoGroups (plain traced : String) : FileTree :=
  resultsTree [groupRun "a" .plain plain, groupRun "b" .tracing traced]

/-- The file of estimates of a group's run. -/
def groupFile (group : String) (baseline : Baseline) (text : String) : EstimateFile :=
  ⟨["target", "criterion", group, "16", baseline.name, "estimates.json"], text.toUTF8, baseline,
    "16", ["target", "criterion", group, "16"]⟩

/-- Results may be listed in any order. -/
theorem resultsTree_relisted {groups others : List (String × FileTree)}
    (order : groups.Perm others) : (resultsTree groups).Relisted (resultsTree others) :=
  .inside "target" [] [] (.inside "criterion" [] [] (.reordered order))

/-- The walk meets the files of estimates of all groups. -/
theorem liesIn_resultsTree_iff {groups : List (String × FileTree)} {file : EstimateFile}
    (listed : (resultsTree groups).WellListed) :
    file.LiesIn (resultsTree groups) ↔ file ∈ estimateFiles (.directory groups) := by
  have found : (resultsTree groups).find? resultsPath = some (.directory groups) := rfl
  exact (EstimateFile.mem_estimateFiles listed found).symm

theorem twoGroups_wellListed (plain traced : String) : (twoGroups plain traced).WellListed := by
  simp [twoGroups, resultsTree, groupRun]

/-- Each of the two groups has its file of estimates. -/
theorem liesIn_twoGroups_iff {file : EstimateFile} {plain traced : String} :
    file.LiesIn (twoGroups plain traced) ↔
      file = groupFile "a" .plain plain ∨ file = groupFile "b" .tracing traced := by
  have walked : estimateFiles (.directory [groupRun "a" .plain plain, groupRun "b" .tracing traced])
      = [groupFile "a" .plain plain, groupFile "b" .tracing traced] := rfl
  rw [twoGroups, liesIn_resultsTree_iff (twoGroups_wellListed plain traced), walked]
  simp

/-- The estimates of a plain run that takes 100 nanoseconds. -/
def plainFile : EstimateFile :=
  groupFile "erased_map_lookup" .plain (estimatesText "100")

/-- The estimates of a traced run of the same workload, which takes 400 of them. -/
def tracedFile : EstimateFile :=
  groupFile "erased_map_lookup" .tracing (estimatesText "400")

/-- Both runs of a workload of sixteen elements, which its directory describes. -/
def comparedGroups : List (String × FileTree) :=
  [("erased_map_lookup", .directory [("16", .directory
    [("plain", .directory [("estimates.json", .file (estimatesText "100").toUTF8)]),
      ("tracing", .directory [("estimates.json", .file (estimatesText "400").toUTF8)]),
      ("benchmark.json", .file (descriptionText "16").toUTF8)])])]

end Unknowns
