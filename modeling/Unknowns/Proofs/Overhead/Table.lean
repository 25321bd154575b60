import Mathlib.Data.List.Forall2
import Unknowns.Proofs.Binary64.Text
import Unknowns.Proofs.Overhead.Making
import Unknowns.Proofs.Overhead.Rows

/-! The table of a report can be read back: its lines, its cells, and what each cell stands for. -/

namespace Unknowns

/-- The pieces of a text between the places where a mark stands. -/
def piecesAt (mark : Char) (text : String) : List String :=
  (text.split mark).toList.map (·.copy)

/-- Up to the first mark goes the first piece. -/
theorem piecesAt_append {mark : Char} {piece : String} (free : mark ∉ piece.toList)
    (rest : String) :
    piecesAt mark (piece ++ (String.singleton mark ++ rest)) = piece :: piecesAt mark rest := by
  simp only [piecesAt, String.toList_split_char]
  rw [String.toList_append, String.toList_append, String.toList_singleton, List.singleton_append,
    List.splitOn_append_cons_self_of_not_mem free, List.map_cons, String.ofList_toList]

/-- Texts that are each ended by a mark are its pieces, with nothing behind the last one. -/
theorem piecesAt_join {mark : Char} {pieces : List String}
    (free : ∀ piece ∈ pieces, mark ∉ piece.toList) :
    piecesAt mark (String.join (pieces.map fun piece => piece ++ String.singleton mark)) =
      pieces ++ [""] := by
  -- The first piece is split off at its mark, and the others are those of what is left.
  induction pieces with
  | nil =>
    simp only [piecesAt, String.toList_split_char]
    rfl
  | cons piece rest ih =>
    rw [List.map_cons, String.join_cons, String.append_assoc,
      piecesAt_append (free piece List.mem_cons_self),
      ih fun other member => free other (List.mem_cons_of_mem _ member), List.cons_append]

/-- A bar in front of texts that are each ended by one makes these its cells. -/
theorem piecesAt_bars {cells : List String} (free : ∀ cell ∈ cells, '|' ∉ cell.toList) :
    piecesAt '|' ("|" ++ String.join (cells.map fun cell => cell ++ "|")) =
      "" :: cells ++ [""] := by
  -- In front of the first bar there is nothing.
  have pieces : ∀ piece ∈ "" :: cells, '|' ∉ piece.toList := by
    simpa using free
  have joined := piecesAt_join pieces
  rwa [List.map_cons, String.join_cons, String.empty_append] at joined

/-- A line of a table has its cells between bars, each with a blank on either side. -/
theorem piecesAt_tableLine {cells : List String} (free : ∀ cell ∈ cells, '|' ∉ cell.toList) :
    piecesAt '|' (tableLine cells) =
      "" :: cells.map (fun cell => " " ++ cell ++ " ") ++ [""] := by
  -- The last two characters of a cell are its second blank and the bar that ends it.
  have written : tableLine cells =
      "|" ++ String.join ((cells.map fun cell => " " ++ cell ++ " ").map fun cell => cell ++ "|") := by
    have ended : ∀ cell : String, " " ++ cell ++ " |" = " " ++ cell ++ " " ++ "|" := by
      intro cell
      have bar : (" |" : String) = " " ++ "|" := by decide
      rw [bar, ← String.append_assoc]
    simp only [tableLine, List.map_map, Function.comp_def, ended]
  rw [written, piecesAt_bars]
  simpa using free

/-- The line below the headings has as many cells as these. -/
theorem piecesAt_separatorLine (columns : Nat) :
    piecesAt '|' (separatorLine columns) = "" :: List.replicate columns "---" ++ [""] := by
  have written : separatorLine columns =
      "|" ++ String.join ((List.replicate columns "---").map fun cell => cell ++ "|") := by
    rw [separatorLine, List.map_replicate]
    rfl
  rw [written, piecesAt_bars]
  intro cell member
  rw [List.eq_of_mem_replicate member]
  decide

/-- A mark that is neither a bar nor a blank is in a line only if it is in a cell. -/
theorem not_mem_tableLine {mark : Char} {cells : List String} (noBar : mark ≠ '|')
    (noBlank : mark ≠ ' ') (free : ∀ cell ∈ cells, mark ∉ cell.toList) :
    mark ∉ (tableLine cells).toList := by
  simpa [tableLine, String.toList_join, noBar, noBlank] using free

/-- What a cell holds between the blanks on its sides. -/
def contentOf (cell : String) : String :=
  String.ofList (cell.toList.drop 1).dropLast

/-- What the cells of a line hold. -/
def contentsOf (line : String) : List String :=
  ((piecesAt '|' line).drop 1).dropLast.map contentOf

/-- The cells of a line hold what was written into them. -/
theorem contentsOf_tableLine {cells : List String} (free : ∀ cell ∈ cells, '|' ∉ cell.toList) :
    contentsOf (tableLine cells) = cells := by
  -- Exactly one blank is taken from either side, so blanks of the content's own are kept.
  have content : ∀ cell : String, contentOf (" " ++ cell ++ " ") = cell := by
    intro cell
    simp [contentOf]
  rw [contentsOf, piecesAt_tableLine free, List.cons_append, List.drop_succ_cons, List.drop_zero,
    List.dropLast_concat, List.map_map]
  simp [Function.comp_def, content]

/-- A rate is shown as a number, whatever it is. -/
theorem Rate.showsNumber_text (rate : Rate) : ShowsNumber rate.text := by
  -- Each of the two greater scales puts its unit behind the number.
  have millions : InNumberLetters "M" := by decide
  have thousands : InNumberLetters "K" := by decide
  unfold Rate.text
  split
  · exact (Binary64.showsNumber_fixed 2 _).append millions
  · split
    · exact (Binary64.showsNumber_fixed 2 _).append thousands
    · exact Binary64.showsNumber_fixed 0 rate

/-- A ratio is shown as a number, whatever it is. -/
theorem showsNumber_ratioCell (ratio : Binary64) : ShowsNumber (ratioCell (some ratio)) := by
  have front : InNumberLetters "**" := by decide
  have back : InNumberLetters "x**" := by decide
  exact ((Binary64.showsNumber_fixed 2 ratio).behind front).append back

/-- The cell of a rate is marked exactly when there is none. -/
theorem rateCell_eq_mark_iff {rate : Option Rate} : rateCell rate = "N/A" ↔ rate = none := by
  cases rate with
  | none => simp [rateCell]
  | some rate => simp [rateCell, (Rate.showsNumber_text rate).ne_marks.1]

/-- The cell of a ratio is marked exactly when there is none. -/
theorem ratioCell_eq_mark_iff {ratio : Option Binary64} : ratioCell ratio = "-" ↔ ratio = none := by
  cases ratio with
  | none => simp [ratioCell]
  | some ratio => simp [(showsNumber_ratioCell ratio).ne_marks.2]

/-- A mark that ends cells or lines. -/
def EndsCells (mark : Char) : Prop := mark = '|' ∨ mark = '\n'

variable {mark : Char} {measurements : List Measurement} {workload : String}

/-- No number runs on into another cell. -/
theorem ShowsNumber.not_ends {text : String} (shows : ShowsNumber text) (ends : EndsCells mark) :
    mark ∉ text.toList := by
  rcases ends with rfl | rfl <;> exact shows.not_mem (by decide)

/-- The cells of a row are as free of what ends cells as the name of the workload is. -/
theorem not_mem_rowCells (ends : EndsCells mark) (named : mark ∉ workload.toList) :
    ∀ cell ∈ rowCells measurements workload, mark ∉ cell.toList := by
  -- Whether a number is there or is missing, its cell is free of both marks.
  have rates : ∀ rate : Option Rate, mark ∉ (rateCell rate).toList := by
    intro rate
    cases rate with
    | none => rcases ends with rfl | rfl <;> decide
    | some rate => exact (Rate.showsNumber_text rate).not_ends ends
  have ratios : ∀ ratio : Option Binary64, mark ∉ (ratioCell ratio).toList := by
    intro ratio
    cases ratio with
    | none => rcases ends with rfl | rfl <;> decide
    | some ratio => exact (showsNumber_ratioCell ratio).not_ends ends
  intro cell member
  simp only [rowCells, List.mem_append, List.mem_cons, List.mem_map, List.not_mem_nil,
    or_false] at member
  rcases member with (rfl | ⟨baseline, _, rfl⟩) | rfl
  · exact named
  · exact rates _
  · exact ratios _

/-- There is no ratio when a rate is missing, or the plain one is not positive. -/
theorem ratio?_eq_none_iff :
    ratio? measurements workload = none ↔
      (∃ baseline, rate? measurements workload baseline = none) ∨
        ∃ plain, rate? measurements workload .plain = some plain ∧
          (Binary64.zero false).isBelow plain = false := by
  have either : (∃ baseline, rate? measurements workload baseline = none) ↔
      rate? measurements workload .plain = none ∨ rate? measurements workload .tracing = none := by
    constructor
    · rintro ⟨baseline, missing⟩
      cases baseline with
      | plain => exact .inl missing
      | tracing => exact .inr missing
    · rintro (missing | missing) <;> exact ⟨_, missing⟩
  -- With both rates there, only the sign of the plain one is left to decide.
  rw [either]
  unfold ratio?
  cases rate? measurements workload .plain with
  | none => simp
  | some plain =>
    cases rate? measurements workload .tracing with
    | none => simp
    | some traced => cases (Binary64.zero false).isBelow plain <;> simp

/-- A line tells of a workload what the latest of its measurements do. -/
structure TellsOf (measurements : List Measurement) (workload line : String) : Prop where
  name : (contentsOf line).head? = some workload
  rates : ∀ (column : Nat) (baseline : Baseline), Baseline.all[column]? = some baseline →
    ∀ rate, Latest measurements workload baseline rate →
      (contentsOf line)[column + 1]? = some rate.text
  missing : ∀ (column : Nat) (baseline : Baseline), Baseline.all[column]? = some baseline →
    ((contentsOf line)[column + 1]? = some "N/A" ↔
      ∀ rate, (⟨workload, baseline, rate⟩ : Measurement) ∉ measurements)
  ratio : ∀ plain traced, Latest measurements workload .plain plain →
    Latest measurements workload .tracing traced →
      (Binary64.zero false).isBelow plain = true →
        (contentsOf line)[Baseline.all.length + 1]? =
          some ("**" ++ (traced.div plain).fixed 2 ++ "x**")
  noRatio : (contentsOf line)[Baseline.all.length + 1]? = some "-" ↔
    (∃ baseline, ∀ rate, (⟨workload, baseline, rate⟩ : Measurement) ∉ measurements) ∨
      ∃ plain, Latest measurements workload .plain plain ∧
        (Binary64.zero false).isBelow plain = false

/-- A text is read back as a table: headings, and a row for each measured workload in order. -/
structure ReadsBack (measurements : List Measurement) (text : String) (names : List String)
    (heading separator : String) (rows : List String) : Prop where
  ascending : names.Pairwise (· < ·)
  complete : ∀ name, name ∈ names ↔ ∃ measurement ∈ measurements, measurement.workload = name
  lines : piecesAt '\n' text =
    ["# Tracing Overhead Report", "", heading, separator] ++ rows ++ [""]
  cells : ∀ line ∈ heading :: separator :: rows, ∃ cells,
    piecesAt '|' line = "" :: cells ++ [""] ∧ cells.length = Baseline.all.length + 2
  heads : contentsOf heading = headings
  tells : List.Forall₂ (TellsOf measurements) names rows

/-- The line of a workload tells what the measurements do. -/
theorem tellsOf_tableLine (named : '|' ∉ workload.toList) :
    TellsOf measurements workload (tableLine (rowCells measurements workload)) := by
  have contents : contentsOf (tableLine (rowCells measurements workload)) =
      rowCells measurements workload :=
    contentsOf_tableLine (not_mem_rowCells (.inl rfl) named)
  -- Behind the name, the cells of the baselines stand in the order of these.
  have cell : ∀ (column : Nat) (baseline : Baseline), Baseline.all[column]? = some baseline →
      (rowCells measurements workload)[column + 1]? =
        some (rateCell (rate? measurements workload baseline)) := by
    intro column baseline placed
    have within : column < Baseline.all.length := by
      rw [List.getElem?_eq_some_iff] at placed
      exact placed.1
    rw [rowCells, List.cons_append, List.getElem?_cons_succ,
      List.getElem?_append_left (by simpa using within), List.getElem?_map, placed]
    rfl
  have last : (rowCells measurements workload)[Baseline.all.length + 1]? =
      some (ratioCell (ratio? measurements workload)) := rfl
  constructor
  · rw [contents]
    rfl
  · intro column baseline placed rate latest
    rw [contents, cell column baseline placed, rate?_eq_some_iff.mpr latest]
    rfl
  · intro column baseline placed
    rw [contents, cell column baseline placed, Option.some.injEq, rateCell_eq_mark_iff,
      rate?_eq_none_iff]
  · intro plain traced plainLatest tracedLatest positive
    have known : ratio? measurements workload = some (traced.div plain) := by
      simp [ratio?, rate?_eq_some_iff.mpr plainLatest, rate?_eq_some_iff.mpr tracedLatest, positive]
    rw [contents, last, known]
    rfl
  · rw [contents, last, Option.some.injEq, ratioCell_eq_mark_iff, ratio?_eq_none_iff]
    simp only [rate?_eq_none_iff, rate?_eq_some_iff]

/-- A report that is written without a fault is the text of its measurements. -/
theorem text?_of_writeReport {tree after : FileTree}
    (run : (writeReport measurements).run tree = .ok () after) :
    after.text? reportPath = some (reportText measurements) := by
  -- Only one of the endings of writing is without a fault.
  rw [run_writeReport] at run
  split at run
  · cases run
  · split at run
    · rename_i written
      cases run
      exact text?_of_written written
    · cases run

/-- Names that can be told from what ends cells: they hold no bar and no newline. -/
def NamesReadable (measurements : List Measurement) : Prop :=
  ∀ measurement ∈ measurements,
    '|' ∉ measurement.workload.toList ∧ '\n' ∉ measurement.workload.toList

/-- Readable names of workloads hold nothing that ends cells. -/
theorem NamesReadable.not_mem (readable : NamesReadable measurements) (ends : EndsCells mark)
    {name : String} (listed : name ∈ workloads measurements) : mark ∉ name.toList := by
  rw [workloads, mem_ascending, List.mem_map] at listed
  obtain ⟨measurement, member, rfl⟩ := listed
  rcases ends with rfl | rfl
  · exact (readable measurement member).1
  · exact (readable measurement member).2

/-- The lines of a report hold no newlines of their own. -/
theorem NamesReadable.not_mem_reportLines (readable : NamesReadable measurements) :
    ∀ line ∈ reportLines measurements, '\n' ∉ line.toList := by
  -- The lines above the rows are known, and the rows have nothing of their own but their cells.
  have opening : ∀ line ∈ ["# Tracing Overhead Report", "", tableLine headings,
      separatorLine headings.length], '\n' ∉ line.toList := by decide
  intro line member
  rcases List.mem_append.mp member with first | row
  · exact opening line first
  · obtain ⟨name, listed, rfl⟩ := List.mem_map.mp row
    exact not_mem_tableLine (by decide) (by decide)
      (not_mem_rowCells (.inr rfl) (readable.not_mem (.inr rfl) listed))

/-- The report of measurements with readable names is read back line by line, and cell by cell. -/
theorem NamesReadable.readsBack (readable : NamesReadable measurements) :
    ReadsBack measurements (reportText measurements) (workloads measurements)
      (tableLine headings) (separatorLine headings.length)
      ((workloads measurements).map fun name => tableLine (rowCells measurements name)) where
  ascending := pairwise_ascending _
  complete name := by rw [workloads, mem_ascending, List.mem_map]
  lines := piecesAt_join readable.not_mem_reportLines
  cells := by
    intro line member
    rcases List.mem_cons.mp member with rfl | below
    · exact ⟨_, piecesAt_tableLine (by decide), rfl⟩
    · rcases List.mem_cons.mp below with rfl | row
      · exact ⟨_, piecesAt_separatorLine _, rfl⟩
      · obtain ⟨name, listed, rfl⟩ := List.mem_map.mp row
        have free : ∀ cell ∈ rowCells measurements name, '|' ∉ cell.toList :=
          not_mem_rowCells (.inl rfl) (readable.not_mem (.inl rfl) listed)
        exact ⟨_, piecesAt_tableLine free, rfl⟩
  heads := contentsOf_tableLine (by decide)
  tells := by
    rw [List.forall₂_map_right_iff, List.forall₂_same]
    exact fun name listed => tellsOf_tableLine (readable.not_mem (.inl rfl) listed)

/-- Writing succeeds exactly when the place of the report is free. -/
theorem writeReport_succeeds_iff {tree : FileTree} (rooted : tree.kind? [] = some .directory) :
    (∃ after, (writeReport measurements).run tree = .ok () after) ↔ ¬OutputBlocked tree := by
  -- A taken place is the only thing that can go wrong.
  rcases writeReport_cases rooted measurements with
    ⟨blocked, fault, failed⟩ | ⟨free, _, after, _, _, written⟩
  · simp [blocked, failed]
  · simp [free, written]

/--
The report that is written is well formed, and is read back when names hold no bar and no newline.

It is written wherever its place is free. Below four lines of headings it has one line for each
workload, in the order of their names. Each line of the table has a cell for every baseline, one for
the workload and one for the ratio, and no number can be taken for the end of a cell or for a
missing one.
-/
theorem report_reads_back (readable : NamesReadable measurements) :
    (∃ (text : String) (names : List String) (heading separator : String) (rows : List String),
      ReadsBack measurements text names heading separator rows ∧
        (∀ tree : FileTree, tree.kind? [] = some .directory →
          ((∃ after, (writeReport measurements).run tree = .ok () after) ↔
            ¬OutputBlocked tree)) ∧
        ∀ tree after : FileTree, (writeReport measurements).run tree = .ok () after →
          after.text? reportPath = some text) ∧
    (∀ rate : Rate, '|' ∉ rate.text.toList ∧ rate.text ≠ "N/A" ∧ rate.text ≠ "-") ∧
    ∀ ratio : Binary64, '|' ∉ (ratioCell (some ratio)).toList ∧
      ratioCell (some ratio) ≠ "N/A" ∧ ratioCell (some ratio) ≠ "-" := by
  refine ⟨⟨_, _, _, _, _, readable.readsBack, fun tree => writeReport_succeeds_iff,
    fun tree after => text?_of_writeReport⟩, fun rate => ?_, fun ratio => ?_⟩
  · have shows := Rate.showsNumber_text rate
    exact ⟨shows.not_ends (.inl rfl), shows.ne_marks⟩
  · have shows := showsNumber_ratioCell ratio
    exact ⟨shows.not_ends (.inl rfl), shows.ne_marks⟩

/-- Measurements of three workloads, of which one has a ratio; one of its rates came in twice. -/
def partlyMeasured : List Measurement :=
  [⟨"c", .plain, .ofNat 5⟩, ⟨"b", .plain, .infinite true⟩, ⟨"b", .tracing, .notANumber⟩,
    ⟨"a", .tracing, .infinite false⟩, ⟨"c", .plain, .ofNat 2000⟩, ⟨"c", .tracing, .ofNat 1000⟩]

/-- The report of partly measured workloads. -/
def partlyMeasuredText : String :=
  "# Tracing Overhead Report\n\n" ++
    "| Workload | plain (Ops/s) | tracing (Ops/s) | tracing vs plain |\n" ++
      "|---|---|---|---|\n| a | N/A | infM | - |\n| b | -inf | NaN | - |\n" ++
        "| c | 2.00K | 1000 | **0.50x** |\n"

/-- The report of partly measured workloads is written where nothing was, with a row for each. -/
theorem report_reads_back_partlyMeasured :
    NamesReadable partlyMeasured ∧
      ∃ after, (writeReport partlyMeasured).run .empty = .ok () after ∧
        after.text? reportPath = some partlyMeasuredText ∧
        ∃ (names : List String) (heading separator : String) (rows : List String),
          names = ["a", "b", "c"] ∧
            ReadsBack partlyMeasured partlyMeasuredText names heading separator rows := by
  have readable : NamesReadable partlyMeasured := by
    unfold NamesReadable
    decide
  obtain ⟨⟨text, names, heading, separator, rows, back, succeeds, written⟩, _⟩ :=
    report_reads_back readable
  have free : ¬OutputBlocked .empty := by
    rintro (⟨content, occupied⟩ | taken)
    · cases occupied
    · cases taken
  obtain ⟨after, run⟩ := (succeeds .empty rfl).mpr free
  have shown : after.text? reportPath = some partlyMeasuredText := by
    have evaluated : (match (writeReport partlyMeasured).run .empty with
        | .ok _ left => left.text? reportPath
        | .error _ _ => none) = some partlyMeasuredText := by decide +kernel
    rwa [run] at evaluated
  have same : text = partlyMeasuredText :=
    Option.some.inj ((written .empty after run).symm.trans shown)
  -- The names are those of the measurements, each once and in order.
  have listed : ascending names = workloads partlyMeasured := by
    refine ascending_eq_iff.mpr fun name => ?_
    rw [back.complete, List.mem_map]
  rw [ascending_of_pairwise back.ascending] at listed
  refine ⟨readable, after, run, shown, names, heading, separator, rows, ?_, same ▸ back⟩
  rw [listed]
  decide +kernel

end Unknowns
