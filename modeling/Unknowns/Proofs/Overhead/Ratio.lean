import Unknowns.Proofs.Binary64.Shown
import Unknowns.Proofs.Binary64.Sign
import Unknowns.Proofs.Overhead.Table
import Unknowns.Proofs.Overhead.Throughput

/-! The ratio of two rates of a workload is on the side of one that its times are on. -/

namespace Unknowns

/-- The number that the cell of a ratio shows, between its marks. -/
def shownRatio? (cell : String) : Option ShownNumber :=
  match cell.toList with
  | '*' :: '*' :: text =>
    match frontNumber? text with
    | some (shown, ['x', '*', '*']) => some shown
    | _ => none
  | _ => none

/-- The cell of a ratio is read as what the ratio shows with two places. -/
theorem shownRatio?_ratioCell (ratio : Binary64) :
    shownRatio? (ratioCell (some ratio)) = ratio.shown 2 := by
  have cell : (ratioCell (some ratio)).toList =
      '*' :: '*' :: ((ratio.fixed 2).toList ++ ['x', '*', '*']) := by
    simp [ratioCell]
  have ended : EndsNumber ['x', '*', '*'] := by decide
  rw [shownRatio?, cell]
  simp only [Binary64.frontNumber?_fixed 2 ratio ended]
  cases ratio.shown 2 <;> rfl

/-- A cell compares two times: what it shows is on the side of one that they are on. -/
structure ComparesTimes (cell : String) (plain traced : Binary64) : Prop where
  slower : plain.isAtMost traced = true → ∃ shown, shownRatio? cell = some shown ∧
    shown ≤ .fraction 1
  faster : traced.isAtMost plain = true → ∃ shown, shownRatio? cell = some shown ∧
    .fraction 1 ≤ shown
  equal : plain.isEqualTo traced = true → cell = "**1.00x**"

/-- The rates of one number of elements compare the times that they were measured in. -/
theorem comparesTimes_ratioCell {elements plain traced : Binary64}
    (positive : (Binary64.zero false).isBelow plain = true)
    (positiveToo : (Binary64.zero false).isBelow traced = true)
    (bounded : (rateOf elements plain).isFinite = true)
    (above : (Binary64.zero false).isBelow (rateOf elements plain) = true) :
    ComparesTimes (ratioCell (some ((rateOf elements traced).div (rateOf elements plain)))) plain
      traced := by
  -- A finite rate comes from a finite product, which either time divides.
  obtain ⟨dividend, product⟩ := Binary64.exists_dividend positive above bounded
  have one : (Binary64.ofNat 1).shown 2 = some (.fraction 1) := by
    rw [Binary64.shown_ofNat (by decide), Nat.cast_one]
  constructor
  · -- The longer time leaves the smaller quotient, so the ratio is at most one before it is shown.
    intro slower
    have rates : (rateOf elements traced).isAtMost (rateOf elements plain) = true := by
      rw [rateOf, rateOf, product]
      exact Binary64.div_isAtMost_div_left dividend positive slower
    obtain ⟨x, y, shown, shownToo, below⟩ :=
      Binary64.shown_mono 2 (Binary64.div_isAtMost_one bounded above rates)
    rw [one, Option.some.injEq] at shownToo
    exact ⟨x, (shownRatio?_ratioCell _).trans shown, shownToo ▸ below⟩
  · intro faster
    have rates : (rateOf elements plain).isAtMost (rateOf elements traced) = true := by
      rw [rateOf, rateOf, product]
      exact Binary64.div_isAtMost_div_left dividend positiveToo faster
    obtain ⟨x, y, shown, shownToo, below⟩ :=
      Binary64.shown_mono 2 (Binary64.one_isAtMost_div bounded above rates)
    rw [one, Option.some.injEq] at shown
    exact ⟨y, (shownRatio?_ratioCell _).trans shownToo, shown ▸ below⟩
  · intro equal
    rw [Binary64.eq_of_isEqualTo positive positiveToo equal] at above bounded ⊢
    obtain ⟨magnitude, same, counted⟩ := Binary64.exists_units bounded above
    rw [same, Binary64.div_itself counted]
    decide +kernel

variable {tree : FileTree} {plain traced : EstimateFile} {plainTime tracedTime : Binary64}

/-- Nothing is compared with the rate of what is not above zero. -/
theorem rateOf_not_above {elements time : Binary64}
    (positive : (Binary64.zero false).isBelow time = true)
    (none : (Binary64.zero false).isBelow elements = false) :
    (Binary64.zero false).isBelow (rateOf elements time) = false := by
  by_contra above
  rw [Bool.not_eq_false] at above
  have product := Binary64.isBelow_zero_of_div positive above
  rw [nanoseconds, Binary64.ofNat_eq_whole (by decide)] at product
  have counted := Binary64.isBelow_zero_of_mul (Magnitude.units_whole_pos _ (by decide)) product
  rw [none] at counted
  cases counted

/-- A row that shows a plain run and a traced one has the ratio of their rates. -/
theorem ReportRow.ratio_eq {row : ReportRow} (shows : row.Shows tree plain plainTime)
    (showsToo : row.Shows tree traced tracedTime) (under : plain.baseline = .plain)
    (underToo : traced.baseline = .tracing) :
    row.ratio =
      if (Binary64.zero false).isBelow (plain.rate tree plainTime) then
        some ((traced.rate tree tracedTime).div (plain.rate tree plainTime))
      else none := by
  have known := shows.shown
  have knownToo := showsToo.shown
  rw [under] at known
  rw [underToo] at knownToo
  rw [ratio, known, knownToo]

/--
A row compares a plain run with a traced one, and its ratio points the way that their times do.

There is no ratio when the plain rate is not above zero, as for elements that are not.
-/
structure ReportRow.ComparesRuns (tree : FileTree) (row : ReportRow) (plain traced : EstimateFile)
    (plainTime tracedTime : Binary64) : Prop where
  plainShown : row.Shows tree plain plainTime
  tracedShown : row.Shows tree traced tracedTime
  missing : ratioCell row.ratio = "-" ↔
    (Binary64.zero false).isBelow (plain.rate tree plainTime) = false
  undeclared : ∀ elements, ElementsOf tree plain.workloadPath elements →
    (Binary64.zero false).isBelow elements = false → ratioCell row.ratio = "-"
  compares : (plain.rate tree plainTime).isFinite = true → ratioCell row.ratio ≠ "-" →
    ComparesTimes (ratioCell row.ratio) plainTime tracedTime

/-- The ratio of a workload points the way that its times do, in spite of all roundings. -/
theorem makeReport_comparesTimes (listed : tree.WellListed) (distinct : DistinctWorkloads tree)
    (succeeds : (makeReport tree).fault = none) (counts : plain.CountsIn tree plainTime)
    (countsToo : traced.CountsIn tree tracedTime)
    (directory : plain.workloadPath = traced.workloadPath) (under : plain.baseline = .plain)
    (underToo : traced.baseline = .tracing) :
    ∃ rows, (makeReport tree).tree.text? reportPath = some (tableText rows) ∧
      Tabulates tree rows ∧
        ∃ row ∈ rows, row.ComparesRuns tree plain traced plainTime tracedTime := by
  obtain ⟨rows, text, table, shown⟩ := makeReport_shows listed distinct succeeds counts
  have workload := counts.lies.workload_eq countsToo.lies directory
  obtain ⟨row, member, shows, showsToo⟩ :=
    table.toSummarises.shows_both workload shown (table.shows countsToo)
  have ratio := row.ratio_eq shows showsToo under underToo
  have missing : ratioCell row.ratio = "-" ↔
      (Binary64.zero false).isBelow (plain.rate tree plainTime) = false := by
    rw [ratioCell_eq_mark_iff, ratio]
    simp
  refine ⟨rows, text, table, row, member, shows, showsToo, missing, ?undeclared, ?compares⟩
  case undeclared =>
    intro elements declared none
    rw [missing, EstimateFile.rate, elementsOf_iff.mp declared]
    exact rateOf_not_above counts.positive none
  case compares =>
    intro bounded present
    rw [Ne, missing, Bool.not_eq_false] at present
    rw [ratio, if_pos present]
    -- Both rates are those of the elements that their common directory declares.
    unfold EstimateFile.rate at bounded present ⊢
    rw [← directory]
    exact comparesTimes_ratioCell counts.positive countsToo.positive bounded present

theorem comparedGroups_wellListed : (resultsTree comparedGroups).WellListed := by
  simp [comparedGroups, resultsTree]

/-- There are the two runs of the workload, and no others. -/
theorem liesIn_comparedGroups_iff {file : EstimateFile} :
    file.LiesIn (resultsTree comparedGroups) ↔ file = plainFile ∨ file = tracedFile := by
  have walked : estimateFiles (.directory comparedGroups) = [plainFile, tracedFile] := rfl
  rw [liesIn_resultsTree_iff comparedGroups_wellListed, walked]
  simp

/-- Tracing that takes longer is shown with a ratio of at most one. -/
theorem makeReport_comparesTimes_comparedGroups :
    (Binary64.ofNat 100).isAtMost (.ofNat 400) = true ∧
      ∃ rows, (makeReport (resultsTree comparedGroups)).tree.text? reportPath =
          some (tableText rows) ∧
        ∃ row ∈ rows, row.workload = "16" ∧
          ComparesTimes (ratioCell row.ratio) (.ofNat 100) (.ofNat 400) := by
  have distinct : DistinctWorkloads (resultsTree comparedGroups) := by
    intro file other time otherTime counts countsToo _
    rcases liesIn_comparedGroups_iff.mp counts.lies with rfl | rfl <;>
      rcases liesIn_comparedGroups_iff.mp countsToo.lies with rfl | rfl <;> rfl
  have counts : plainFile.CountsIn (resultsTree comparedGroups) (.ofNat 100) :=
    ⟨liesIn_comparedGroups_iff.mpr (.inl rfl), by decide +kernel, by decide +kernel⟩
  have countsToo : tracedFile.CountsIn (resultsTree comparedGroups) (.ofNat 400) :=
    ⟨liesIn_comparedGroups_iff.mpr (.inr rfl), by decide +kernel, by decide +kernel⟩
  obtain ⟨rows, text, _, row, member, runs⟩ :=
    makeReport_comparesTimes comparedGroups_wellListed distinct (by decide +kernel) counts
      countsToo rfl rfl rfl
  have present : ratioCell row.ratio ≠ "-" := mt runs.missing.mp (by decide +kernel)
  exact ⟨by decide +kernel, rows, text, row, member, runs.plainShown.named,
    runs.compares (by decide +kernel) present⟩

end Unknowns
