import FlowLint.Proofs.FirstSeen
import FlowLint.Proofs.Overflow
import FlowLint.Report.Alert
import Mathlib.Algebra.BigOperators.Ring.Finset

/-!
# Accounts of a group

The record of a group, the report on it and the alert about it count the same findings in several
ways. Here these counts are shown to agree.

* `GroupRecord.Accounts`: a record of a group accounts for the samples that it was made from.
  `accounts_of_groupRecord`: every record does.
* `AlertUnit.Covers`, `Alert.Accounts`: an alert accounts for the record that it is about.
-/

namespace FlowLint

open Script (bind_eq_ok mapM_eq_ok_iff)

/-! ## Records -/

namespace UnitSample

variable {α : Type}

/-- How many findings some units have together. -/
def countFindings (samples : List (UnitSample α)) : Nat :=
  (samples.map fun s => s.issues.length).sum

/-- How many units have findings. -/
def countFaulty (samples : List (UnitSample α)) : Nat :=
  samples.countP fun s => !s.issues.isEmpty

/-- How many units have findings of a critical kind. -/
def countCritical (samples : List (UnitSample α)) : Nat :=
  samples.countP fun s => s.issues.any (·.kind.isCritical)

/-- The kinds of all findings, one after the other. -/
def allKinds (samples : List (UnitSample α)) : List IssueKind :=
  samples.flatMap fun s => s.issues.map Issue.kind

variable (samples : List (UnitSample α))

theorem isFaulty_of_any {issues : List Issue} {p : Issue → Bool} (h : issues.any p = true) :
    (!issues.isEmpty) = true := by
  obtain ⟨i, hi, -⟩ := List.any_eq_true.mp h
  rw [Bool.not_eq_true', List.isEmpty_eq_false_iff]
  exact List.ne_nil_of_mem hi

theorem countCritical_le : countCritical samples ≤ countFaulty samples :=
  List.countP_mono_left fun _ _ hs => isFaulty_of_any hs

theorem countFaulty_le : countFaulty samples ≤ samples.length :=
  List.countP_le_length

/-- A unit that has findings has at least one. -/
theorem countFaulty_le_countFindings : countFaulty samples ≤ countFindings samples := by
  unfold countFaulty countFindings
  induction samples with
  | nil => exact Nat.le_refl 0
  | cons s samples ih =>
    rw [List.countP_cons, List.map_cons, List.sum_cons]
    split
    · rename_i hs
      have hpos : 0 < s.issues.length := by
        simpa [List.length_pos_iff] using hs
      omega
    · omega

end UnitSample

open UnitSample (countFindings countFaulty countCritical allKinds)

/-- A record of a group accounts for the samples that it was made from. -/
structure GroupRecord.Accounts (samples : List (UnitSample Number)) (r : GroupRecord Number) :
    Prop where
  /-- One record for each sample, with all that the sample says. -/
  units : r.units.map UnitRecord.sample = samples
  critical : ∀ u ∈ r.units, u.hasCriticalIssue = u.issues.any (·.kind.isCritical)
  totalUnits : r.totalUnits = samples.length
  totalIssues : r.totalIssues = countFindings samples
  unitsWithIssues : r.unitsWithIssues = countFaulty samples
  unitsWithCriticalIssues : r.unitsWithCriticalIssues = countCritical samples
  nested : r.unitsWithCriticalIssues ≤ r.unitsWithIssues ∧
    r.unitsWithIssues ≤ min r.totalUnits r.totalIssues
  /-- Every kind that occurs, once, in the order of the findings. -/
  distinctKinds : ∃ listed, r.distinctKinds = listed.map (fun k => Json.string k.name) ∧
    FirstSeen (allKinds samples) listed

variable {weights : Weights Number} {groupId groupName : String}
  {samples : List (UnitSample Number)} {r : GroupRecord Number}

theorem hasCriticalIssue_of_unitRecord {s : UnitSample Number} {u : UnitRecord Number}
    (h : unitRecord weights s = Except.ok (ε := Fault) u) :
    u.hasCriticalIssue = u.issues.any (·.kind.isCritical) := by
  obtain ⟨score, -, h⟩ := bind_eq_ok.mp h
  cases h
  rfl

/-- A record of a group accounts for its samples. -/
theorem accounts_of_groupRecord
    (h : groupRecord weights groupId groupName samples = Except.ok (ε := Fault) r) :
    r.Accounts samples := by
  obtain ⟨records, hrecords, hof⟩ := bind_eq_ok.mp h
  have hmade := madeOf_of_groupRecordOf hof
  have hcritical : ∀ u ∈ records, u.hasCriticalIssue = u.issues.any (·.kind.isCritical) :=
    forall_mem_of_forall₂_right (mapM_eq_ok_iff.mp hrecords) fun _ _ =>
      hasCriticalIssue_of_unitRecord
  obtain rfl := samples_of_unitRecords hrecords
  have hissues : r.totalIssues = countFindings (records.map UnitRecord.sample) := by
    rw [hmade.totalIssues, countFindings, List.map_map, Nat.cast_list_sum, List.map_map]
    rfl
  have hfaulty : r.unitsWithIssues = countFaulty (records.map UnitRecord.sample) := by
    rw [hmade.unitsWithIssues, countFaulty, List.countP_map, ← List.countP_eq_length_filter]
    rfl
  have hunitsCritical : r.unitsWithCriticalIssues =
      countCritical (records.map UnitRecord.sample) := by
    rw [hmade.unitsWithCriticalIssues, countCritical, List.countP_map, List.filter_filter,
      ← List.countP_eq_length_filter]
    refine congrArg Nat.cast (List.countP_congr fun u hu => ?_)
    rw [Bool.and_eq_true, hcritical u hu]
    constructor
    · exact And.left
    · exact fun h => ⟨h, UnitSample.isFaulty_of_any h⟩
  have hunits : r.totalUnits = (records.map UnitRecord.sample).length := by
    rw [hmade.totalUnits, List.length_map]
  refine ⟨by rw [hmade.units], by rwa [hmade.units], hunits, hissues, hfaulty, hunitsCritical,
    ?_, _, hmade.distinctKinds, ?_⟩
  · have hle := UnitSample.countCritical_le (records.map UnitRecord.sample)
    have hle' := UnitSample.countFaulty_le (records.map UnitRecord.sample)
    have hle'' := UnitSample.countFaulty_le_countFindings (records.map UnitRecord.sample)
    omega
  · have hnonempty := flatMap_filter_nonempty
      (fun u : UnitRecord Number => u.issues.map Issue.kind) records
    simp only [List.isEmpty_map] at hnonempty
    rw [hnonempty, allKinds, List.flatMap_map]
    exact firstSeen_foldl _

/-! ## Alerts -/

/-- What an alert says about a unit accounts for all findings in it. -/
structure AlertUnit.Covers (u : UnitRecord Number) (a : AlertUnit) : Prop where
  name : a.name = u.unitName
  totalIssues : a.totalIssues = u.issues.length
  /-- There is a line for each class that has findings, with their number, and these numbers are
  that of all findings together. -/
  lines : ∃ counts : List (AlertClass × Nat),
    a.lines = counts.map (fun (c, count) => c.line count) ∧
      (counts.map Prod.fst).Nodup ∧
      (∀ c count, (c, count) ∈ counts ↔
        count = u.issues.countP (fun i => AlertClass.ofKind i.kind = c) ∧ count ≠ 0) ∧
      (counts.map Prod.snd).sum = a.totalIssues

/-- An alert lists the units with findings, in their order, and accounts for all findings. -/
structure Alert.Accounts (r : GroupRecord Number) (a : Alert) : Prop where
  units : List.Forall₂ AlertUnit.Covers (r.units.filter fun u => !u.issues.isEmpty) a.units
  affectedUnits : a.affectedUnits = r.unitsWithIssues ∧ a.affectedUnits = a.units.length
  totalIssues : a.totalIssues = r.totalIssues ∧
    a.totalIssues = (a.units.map AlertUnit.totalIssues).sum

theorem AlertClass.mem_all (c : AlertClass) : c ∈ AlertClass.all := by
  cases c <;> decide

/-- Zeros have no part in a sum. -/
theorem sum_filter_ne_zero {ι : Type} (count : ι → Nat) (xs : List ι) :
    ((xs.filter fun x => count x != 0).map count).sum = (xs.map count).sum := by
  induction xs with
  | nil => rfl
  | cons x xs ih =>
    by_cases hx : count x = 0
    · simp [hx, ih]
    · simp [hx, ih]

/-- Findings are counted once each, in the class of their kind. -/
theorem sum_alertCounts (issues : List Issue) :
    ((alertCounts issues).map Prod.snd).sum = issues.length := by
  have hparts : (AlertClass.all.flatMap fun c =>
      issues.filter fun i => AlertClass.ofKind i.kind = c).Perm issues :=
    perm_flatMap_filter (by decide) fun i _ => AlertClass.mem_all _
  rw [alertCounts, sum_filter_ne_zero, List.map_map, ← hparts.length_eq, List.length_flatMap]
  simp only [Function.comp_def, List.countP_eq_length_filter]

theorem mem_alertCounts {issues : List Issue} {c : AlertClass} {count : Nat} :
    (c, count) ∈ alertCounts issues ↔
      count = issues.countP (fun i => AlertClass.ofKind i.kind = c) ∧ count ≠ 0 := by
  unfold alertCounts
  rw [List.mem_filter, List.mem_map, bne_iff_ne]
  refine and_congr_left fun _ => ⟨?_, ?_⟩
  · rintro ⟨c', -, heq⟩
    cases heq
    rfl
  · rintro rfl
    exact ⟨c, c.mem_all, rfl⟩

theorem nodup_alertCounts (issues : List Issue) : ((alertCounts issues).map Prod.fst).Nodup := by
  have hsub := (List.filter_sublist (p := fun row => row.2 != 0)
    (l := AlertClass.all.map fun c => (c, issues.countP fun i => AlertClass.ofKind i.kind = c))).map
      Prod.fst
  have hall : AlertClass.all.Nodup := by decide
  rw [List.map_map] at hsub
  exact (List.map_id AlertClass.all ▸ hall).sublist hsub

/-- A unit has lines in an alert exactly if it has findings. -/
theorem alertLines_isEmpty (issues : List Issue) :
    (alertLines issues).isEmpty = issues.isEmpty := by
  have hsum := sum_alertCounts issues
  rw [alertLines, List.isEmpty_map]
  cases issues with
  | nil => rfl
  | cons i is =>
    cases hcounts : alertCounts (i :: is) with
    | nil =>
      rw [hcounts] at hsum
      cases hsum
    | cons row rows => rfl

theorem covers_alertUnit (u : UnitRecord Number) :
    AlertUnit.Covers u
      { name := u.unitName, totalIssues := u.issueCount, lines := alertLines u.issues } where
  name := rfl
  totalIssues := rfl
  lines := ⟨alertCounts u.issues, rfl, nodup_alertCounts _, fun _ _ => mem_alertCounts,
    sum_alertCounts _⟩

/-- An alert accounts for a record that accounts for its samples. -/
theorem GroupRecord.Accounts.alert (h : r.Accounts samples) (instanceUrl : Option String) :
    (Alert.ofGroup r instanceUrl).Accounts r := by
  have hunits : (Alert.ofGroup r instanceUrl).units =
      (r.units.filter fun u => !u.issues.isEmpty).map fun u =>
        { name := u.unitName, totalIssues := u.issueCount, lines := alertLines u.issues } := by
    have hlisted : (Alert.ofGroup r instanceUrl).units = Alert.unitsOf r.units := rfl
    rw [hlisted, Alert.unitsOf]
    simp only [alertLines_isEmpty]
  constructor
  case units =>
    rw [hunits]
    exact List.forall₂_map_right_iff.mpr (List.forall₂_same.mpr fun u _ => covers_alertUnit u)
  case affectedUnits =>
    refine ⟨rfl, ?_⟩
    rw [hunits, List.length_map, ← List.countP_eq_length_filter]
    refine h.unitsWithIssues.trans (congrArg Nat.cast ?_)
    rw [countFaulty, ← h.units, List.countP_map]
    rfl
  case totalIssues =>
    refine ⟨rfl, h.totalIssues.trans (congrArg Nat.cast ?_)⟩
    have hfaulty : (r.units.filter fun u => !u.issues.isEmpty) =
        r.units.filter fun u => u.issueCount != 0 := by
      refine List.filter_congr fun u _ => ?_
      cases hissues : u.issues <;> simp [UnitRecord.issueCount, hissues]
    have hsum := sum_filter_ne_zero UnitRecord.issueCount r.units
    rw [hunits, List.map_map, hfaulty, countFindings, ← h.units, List.map_map]
    exact hsum.symm

/-! ## Groups -/

/-- A record that accounts for its samples has a report, with a health from zero to a hundred
percent. -/
theorem GroupRecord.Accounts.exists_report (h : r.Accounts samples) :
    ∃ report, groupReport r = .ok report ∧ report.record = r ∧
      0 ≤ report.healthPercentage ∧ report.healthPercentage ≤ 100 := by
  obtain ⟨-, hnested⟩ := h.nested
  obtain ⟨listed, hlisted, -⟩ := h.distinctKinds
  have hfaulty : 0 ≤ r.unitsWithIssues := h.unitsWithIssues ▸ Int.natCast_nonneg _
  exact exists_groupReport hfaulty (by omega) (hlisted ▸ distinguishable_names listed)

/-- **Accounts.** A record of a group accounts for all its samples, the report on it has a health
from zero to a hundred percent, and an alert about it accounts for all findings. There is a record
exactly if no sample has too many lines and the mean complexity can be rounded. -/
theorem groupRecord_accounts (weights : Weights Number) (groupId groupName : String)
    (samples : List (UnitSample Number)) :
    (∀ r, groupRecord weights groupId groupName samples = Except.ok (ε := Fault) r →
      r.Accounts samples ∧
      (∃ report, groupReport r = .ok report ∧ report.record = r ∧
        0 ≤ report.healthPercentage ∧ report.healthPercentage ≤ 100) ∧
      ∀ instanceUrl, (Alert.ofGroup r instanceUrl).Accounts r) ∧
    (weights.Moderate → samples.length < memoryLimit →
      ((∃ r, groupRecord weights groupId groupName samples = Except.ok (ε := Fault) r) ↔
        Scorable samples)) := by
  constructor
  · intro r h
    have haccounts := accounts_of_groupRecord h
    exact ⟨haccounts, haccounts.exists_report, haccounts.alert⟩
  · exact fun hweights hlength => groupRecord_succeeds_iff hweights hlength

/-- A unit with two findings of one kind and one of a critical kind, and a unit without any. -/
def faultyAndClean : List (UnitSample Number) :=
  [{ issues := [IssueKind.todoComment, .debuggerStatement, .todoComment].map fun k =>
       .found k "" default none, linesOfCode := .int 30, complexity := .int 3 },
    { linesOfCode := .int 10, complexity := .int 1 }]

theorem groupRecord_accounts_two_units :
    Scorable faultyAndClean ∧
      ∃ r, groupRecord Weights.standard "" "" faultyAndClean = Except.ok (ε := Fault) r ∧
        r.Accounts faultyAndClean ∧
        (∃ report, groupReport r = .ok report ∧ report.record = r ∧
          0 ≤ report.healthPercentage ∧ report.healthPercentage ≤ 100) ∧
        (Alert.ofGroup r none).Accounts r ∧ r.totalIssues = 3 := by
  obtain ⟨haccounts, hsucceeds⟩ := groupRecord_accounts Weights.standard "" "" faultyAndClean
  have hscored : ((groupRecord Weights.standard "" "" faultyAndClean :
      Except Fault (GroupRecord Number)).map (·.totalIssues)).toOption = some 3 := by
    decide +kernel
  cases hr : (groupRecord Weights.standard "" "" faultyAndClean :
      Except Fault (GroupRecord Number)) with
  | error fault =>
    rw [hr] at hscored
    cases hscored
  | ok r =>
    rw [hr] at hscored
    obtain ⟨hrecord, hreport, halert⟩ := haccounts r hr
    exact ⟨(hsucceeds Weights.moderate_standard (by decide)).mp ⟨r, hr⟩, r, rfl, hrecord, hreport,
      halert none, Option.some.inj hscored⟩

/-- A unit without findings that is too complex for the mean to be rounded. -/
def tooComplex : List (UnitSample Number) :=
  [{ linesOfCode := .int 10, complexity := .float (.ofRat (tenPow 307)) }]

theorem groupRecord_overflows :
    groupRecord Weights.standard "" "" tooComplex = Except.error Fault.unbounded := by
  have hfails : (groupRecord Weights.standard "" "" tooComplex :
      Except Fault (GroupRecord Number)).map (·.totalUnits) = .error .unbounded := by
    decide +kernel
  cases hr : (groupRecord Weights.standard "" "" tooComplex :
      Except Fault (GroupRecord Number)) with
  | error fault =>
    rw [hr] at hfails
    exact congrArg Except.error (Except.error.inj hfails)
  | ok r =>
    rw [hr] at hfails
    cases hfails

end FlowLint
