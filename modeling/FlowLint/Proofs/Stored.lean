import FlowLint.Proofs.Conversion
import FlowLint.Proofs.Rounding
import FlowLint.Store.Row

/-!
# What a row keeps of a record

A column turns a value into its own kind. For a record whose fields are of the kinds that the
columns have, nothing is lost: the row holds the values of the record, and the record of a group
can be read back. The only change is that a zero loses its sign.

* `Cell.eq_of_taken_string`, `Cell.eq_of_taken_int`, `Cell.eq_of_taken_float`: the cell of a value
  that its column prefers.
* `UnitRecord.toRow_toEntry`, `GroupRecord.toRow_toEntry`, `SystemRecord.toRow_toEntry`: the rows
  of records.
* `GroupRecord.toRecord_row`: the record of a group that a row gives back.
-/

namespace FlowLint

open Script (bind_eq_ok)

/-! ## Cells -/

/-- The same double, but zero has no sign. -/
def Binary64.unsigned : Binary64 → Binary64
  | negativeZero => finite 0
  | x => x

namespace Number

/-- The number is a double. -/
def IsFloat (x : Number) : Prop :=
  ∃ y, x = float y ∧ y.Representable

/-- The same number, but zero has no sign. -/
def unsigned : Number → Number
  | int n => int n
  | float x => float x.unsigned

/-- A number as a column of its kind keeps it. -/
def cell : Number → Cell
  | int n => .int n
  | float x => .real x.unsigned

end Number

namespace Cell

variable {position : Nat} {column : String} {found : Option Cell} {c : Cell}

theorem eq_of_taken_string {s : String} (h : taken position .text (.string s) = .ok found)
    (hc : required column found = .ok c) : c = .text s := by
  cases h
  cases hc
  rfl

theorem eq_of_taken_int {n : Int} (h : taken position .integer (.int n) = .ok found)
    (hc : required column found = .ok c) : c = .int n := by
  have htaken : taken position .integer (.int n) =
      if fits n then .ok (some (.int n)) else .error (.value .unbounded) := by
    by_cases hfits : fits n = true
    · simp only [taken, ofJson, if_pos hfits]
      rfl
    · simp only [taken, ofJson, if_neg hfits]
      rfl
  rw [htaken] at h
  split at h
  · cases h
    cases hc
    rfl
  · cases h

/-- A double keeps its value in a column of real numbers, also if it is an integer. -/
theorem apply_real {x : Binary64} (hx : x.Representable) :
    Affinity.real.apply (.real x) = .real x.unsigned := by
  cases x with
  | finite v =>
    by_cases hwhole : v.den = 1 && -wordBound < v.num && v.num < wordBound - 1
    · have hv : ((v.num : Int) : Rat) = v := by
        simp only [Bool.and_eq_true, decide_eq_true_eq] at hwhole
        exact Rat.coe_int_num_of_den_eq_one hwhole.1.1
      have hround : Binary64.ofRat v = .finite v := hx
      simp only [Affinity.apply, numeric, integral, hwhole, if_true, hv, hround]
      rfl
    · simp only [Affinity.apply, numeric, integral, hwhole]
      rfl
  | negativeZero =>
    have hzero : Affinity.real.apply (.real .negativeZero) = .real (.ofRat ((0 : Int) : Rat)) := rfl
    rw [hzero, Int.cast_zero, Binary64.ofRat_zero]
    rfl
  | infinite s => rfl
  | nan => rfl

theorem eq_of_taken_float {x : Number} (hx : x.IsFloat)
    (h : taken position .real x.toJson = .ok found) (hc : required column found = .ok c) :
    c = x.cell := by
  obtain ⟨y, rfl, hy⟩ := hx
  cases y with
  | nan =>
    cases h
    cases hc
  | finite v =>
    cases h
    cases hc
    exact apply_real hy
  | negativeZero =>
    cases h
    cases hc
    exact apply_real hy
  | infinite s =>
    cases h
    cases hc
    exact apply_real hy

end Cell

/-! ## Rows of records -/

namespace UnitRecord

/-- The row of a record, with the values of the record. -/
def row (r : UnitRecord Number) (id : Nat) (groupId stamp : String) : UnitRow :=
  { id, groupId := .text groupId, unitId := .text r.unitId, unitName := .text r.unitName
    issueCount := r.issueCount, issues := r.issues.map Issue.toJson
    linesOfCode := r.linesOfCode.cell, complexityScore := r.complexityScore.cell
    qualityScore := r.qualityScore.cell, hasCriticalIssue := r.hasCriticalIssue
    createdAt := stamp }

/-- The numbers of a record are of the kinds of their columns. -/
structure Typed (r : UnitRecord Number) : Prop where
  linesOfCode : ∃ n, r.linesOfCode = .int n
  complexityScore : r.complexityScore.IsFloat
  qualityScore : r.qualityScore.IsFloat

theorem toRow_toEntry {r : UnitRecord Number} {id : Nat} {groupId stamp : String} {found : UnitRow}
    (hr : r.Typed) (h : r.toEntry.toRow id (.string groupId) stamp = .ok found) :
    found = r.row id groupId stamp := by
  obtain ⟨n, hn⟩ := hr.linesOfCode
  unfold UnitEntry.toRow at h
  obtain ⟨flag, hflag, h⟩ := bind_eq_ok.mp h
  obtain ⟨group, hgroup, h⟩ := bind_eq_ok.mp h
  obtain ⟨unit, hunit, h⟩ := bind_eq_ok.mp h
  obtain ⟨name, hname, h⟩ := bind_eq_ok.mp h
  obtain ⟨lines, hlines, h⟩ := bind_eq_ok.mp h
  obtain ⟨complexity, hcomplexity, h⟩ := bind_eq_ok.mp h
  obtain ⟨quality, hquality, h⟩ := bind_eq_ok.mp h
  obtain ⟨-, -, h⟩ := bind_eq_ok.mp h
  obtain ⟨groupCell, hgroupCell, h⟩ := bind_eq_ok.mp h
  obtain ⟨unitCell, hunitCell, h⟩ := bind_eq_ok.mp h
  obtain ⟨nameCell, hnameCell, h⟩ := bind_eq_ok.mp h
  obtain ⟨linesCell, hlinesCell, h⟩ := bind_eq_ok.mp h
  obtain ⟨complexityCell, hcomplexityCell, h⟩ := bind_eq_ok.mp h
  obtain ⟨qualityCell, hqualityCell, h⟩ := bind_eq_ok.mp h
  obtain ⟨critical, hcritical, h⟩ := bind_eq_ok.mp h
  cases h
  have hlinesTaken : Cell.taken 6 .integer (.int n) = .ok lines := by
    rw [← hlines]
    exact congrArg (fun x : Number => Cell.taken 6 .integer x.toJson) hn.symm
  have hflagBit : critical = r.hasCriticalIssue := by
    change (Json.bool r.hasCriticalIssue).toInt.mapError StoreError.value = .ok flag at hflag
    cases hbit : r.hasCriticalIssue <;> rw [hbit] at hflag <;> cases hflag <;>
      cases hcritical <;> rfl
  rw [Cell.eq_of_taken_string hgroup hgroupCell, Cell.eq_of_taken_string hunit hunitCell,
    Cell.eq_of_taken_string hname hnameCell, Cell.eq_of_taken_int hlinesTaken hlinesCell,
    Cell.eq_of_taken_float hr.complexityScore hcomplexity hcomplexityCell,
    Cell.eq_of_taken_float hr.qualityScore hquality hqualityCell, hflagBit]
  unfold row
  rw [hn]
  rfl

end UnitRecord

namespace GroupRecord

/-- The row of a record, with the values of the record. -/
def row (r : GroupRecord Number) (id : Nat) (stamp : String) : GroupRow :=
  { id, groupId := .text r.groupId, groupName := .text r.groupName
    totalIssues := .int r.totalIssues, unitsWithIssues := .int r.unitsWithIssues
    unitsWithCriticalIssues := .int r.unitsWithCriticalIssues, totalUnits := .int r.totalUnits
    distinctKinds := r.distinctKinds, qualityScore := r.qualityScore.cell
    complexityScore := r.complexityScore.cell, createdAt := stamp }

/-- The scores of a record are doubles. -/
structure Typed (r : GroupRecord Number) : Prop where
  qualityScore : r.qualityScore.IsFloat
  complexityScore : r.complexityScore.IsFloat

variable {r : GroupRecord Number} {id : Nat} {stamp : String}

theorem toRow_toEntry {found : GroupRow} (hr : r.Typed)
    (h : r.toEntry.toRow id stamp = .ok found) : found = r.row id stamp := by
  unfold GroupEntry.toRow at h
  obtain ⟨kinds, hkinds, h⟩ := bind_eq_ok.mp h
  obtain ⟨group, hgroup, h⟩ := bind_eq_ok.mp h
  obtain ⟨name, hname, h⟩ := bind_eq_ok.mp h
  obtain ⟨issues, hissues, h⟩ := bind_eq_ok.mp h
  obtain ⟨faulty, hfaulty, h⟩ := bind_eq_ok.mp h
  obtain ⟨critical, hcritical, h⟩ := bind_eq_ok.mp h
  obtain ⟨total, htotal, h⟩ := bind_eq_ok.mp h
  obtain ⟨quality, hquality, h⟩ := bind_eq_ok.mp h
  obtain ⟨complexity, hcomplexity, h⟩ := bind_eq_ok.mp h
  obtain ⟨groupCell, hgroupCell, h⟩ := bind_eq_ok.mp h
  obtain ⟨nameCell, hnameCell, h⟩ := bind_eq_ok.mp h
  obtain ⟨issuesCell, hissuesCell, h⟩ := bind_eq_ok.mp h
  obtain ⟨faultyCell, hfaultyCell, h⟩ := bind_eq_ok.mp h
  obtain ⟨criticalCell, hcriticalCell, h⟩ := bind_eq_ok.mp h
  obtain ⟨totalCell, htotalCell, h⟩ := bind_eq_ok.mp h
  obtain ⟨qualityCell, hqualityCell, h⟩ := bind_eq_ok.mp h
  obtain ⟨complexityCell, hcomplexityCell, h⟩ := bind_eq_ok.mp h
  cases h
  cases hkinds
  rw [Cell.eq_of_taken_string hgroup hgroupCell, Cell.eq_of_taken_string hname hnameCell,
    Cell.eq_of_taken_int hissues hissuesCell, Cell.eq_of_taken_int hfaulty hfaultyCell,
    Cell.eq_of_taken_int hcritical hcriticalCell, Cell.eq_of_taken_int htotal htotalCell,
    Cell.eq_of_taken_float hr.qualityScore hquality hqualityCell,
    Cell.eq_of_taken_float hr.complexityScore hcomplexity hcomplexityCell]
  rfl

/-- What a row gives back: all of the record but its units. -/
def readBack (r : GroupRecord Number) : GroupRecord Number :=
  { r with qualityScore := r.qualityScore.unsigned, complexityScore := r.complexityScore.unsigned,
           units := [] }

theorem toRecord_row (hr : r.Typed) : (r.row id stamp).toRecord = .ok r.readBack := by
  obtain ⟨quality, hquality, -⟩ := hr.qualityScore
  obtain ⟨complexity, hcomplexity, -⟩ := hr.complexityScore
  obtain ⟨_, _, _, _, _, _, kinds, _, _, _⟩ := r
  cases hquality
  cases hcomplexity
  -- Without kinds the list does not count as given, and is empty all the same.
  cases kinds <;> rfl

end GroupRecord

namespace SystemRecord

/-- The row of a record, with the values of the record. -/
def row (r : SystemRecord Number) (id : Nat) (stamp : String) : SystemRow :=
  { id, overallQuality := r.overallQuality.cell, technicalDebt := r.technicalDebt.cell
    complexity := r.complexity.cell, groupCount := .int r.groupCount
    affectedUnits := .int r.affectedUnits, criticalUnits := .int r.criticalUnits
    createdAt := stamp }

/-- The scores of a record are doubles. -/
structure Typed (r : SystemRecord Number) : Prop where
  overallQuality : r.overallQuality.IsFloat
  technicalDebt : r.technicalDebt.IsFloat
  complexity : r.complexity.IsFloat

theorem toRow_toEntry {r : SystemRecord Number} {id : Nat} {stamp : String} {found : SystemRow}
    (hr : r.Typed) (h : r.toEntry.toRow id stamp = .ok found) : found = r.row id stamp := by
  unfold SystemEntry.toRow at h
  obtain ⟨quality, hquality, h⟩ := bind_eq_ok.mp h
  obtain ⟨debt, hdebt, h⟩ := bind_eq_ok.mp h
  obtain ⟨complexity, hcomplexity, h⟩ := bind_eq_ok.mp h
  obtain ⟨groups, hgroups, h⟩ := bind_eq_ok.mp h
  obtain ⟨affected, haffected, h⟩ := bind_eq_ok.mp h
  obtain ⟨critical, hcritical, h⟩ := bind_eq_ok.mp h
  obtain ⟨qualityCell, hqualityCell, h⟩ := bind_eq_ok.mp h
  obtain ⟨debtCell, hdebtCell, h⟩ := bind_eq_ok.mp h
  obtain ⟨complexityCell, hcomplexityCell, h⟩ := bind_eq_ok.mp h
  obtain ⟨groupsCell, hgroupsCell, h⟩ := bind_eq_ok.mp h
  obtain ⟨affectedCell, haffectedCell, h⟩ := bind_eq_ok.mp h
  obtain ⟨criticalCell, hcriticalCell, h⟩ := bind_eq_ok.mp h
  cases h
  rw [Cell.eq_of_taken_float hr.overallQuality hquality hqualityCell,
    Cell.eq_of_taken_float hr.technicalDebt hdebt hdebtCell,
    Cell.eq_of_taken_float hr.complexity hcomplexity hcomplexityCell,
    Cell.eq_of_taken_int hgroups hgroupsCell, Cell.eq_of_taken_int haffected haffectedCell,
    Cell.eq_of_taken_int hcritical hcriticalCell]
  rfl

end SystemRecord

end FlowLint
