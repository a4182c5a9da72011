import FlowLint.Quality.Score
import Mathlib.Algebra.BigOperators.Group.List.Basic
import Mathlib.Algebra.Order.Field.Rat
import Mathlib.Data.Rat.Floor
import Mathlib.Tactic.Linarith
import Mathlib.Tactic.Ring

/-!
# Scores in exact arithmetic

Over the rationals no operation of a score fails and none rounds, but for the two decimals that
every score is rounded to. This module says what the scores are there, as equations between
rationals; what is proved of exact scores starts from these equations.

* `hundredths` is rounding to two decimals. It keeps order, and it keeps bounds that are
  hundredths themselves.
* `UnitSample.scored`, `GroupSample.scored` and `systemOf` are the records in exact arithmetic;
  `UnitSample.qualityScore_scored`, `GroupSample.qualityScore_scored` and `systemOf_eq` give their
  scores.
-/

namespace FlowLint

/-! ## Arithmetic -/

@[simp] theorem smaller_eq_min (a b : Rat) : smaller a b = min a b := by
  unfold smaller
  simp only [Numeral.lt, decide_eq_true_eq]
  split
  · rename_i h
    exact (min_eq_right h.le).symm
  · rename_i h
    exact (min_eq_left (not_lt.mp h)).symm

@[simp] theorem larger_eq_max (a b : Rat) : larger a b = max a b := by
  unfold larger
  simp only [Numeral.lt, decide_eq_true_eq]
  split
  · rename_i h
    exact (max_eq_right h.le).symm
  · rename_i h
    exact (max_eq_left (not_lt.mp h)).symm

@[simp] theorem whole_rat (n : Int) : (whole n : Rat) = n := rfl

@[simp] theorem decimal_rat (q : Rat) : (decimal q : Rat) = q := rfl

@[simp] theorem run_plus (a b : Rat) : (plus a b : Id Rat).run = a + b := rfl

@[simp] theorem run_minus (a b : Rat) : (minus a b : Id Rat).run = a - b := rfl

@[simp] theorem run_times (a b : Rat) : (times a b : Id Rat).run = a * b := rfl

@[simp] theorem run_dividedBy (a b : Rat) : (dividedBy a b : Id Rat).run = a / b := rfl

@[simp] theorem run_sumOf (xs : List Rat) : (sumOf xs : Id Rat).run = xs.sum := by
  rw [sumOf, List.foldlM_eq_foldl, List.sum_eq_foldl]
  rfl

@[simp] theorem run_shareTimes (part total factor : Int) :
    (shareTimes part total factor : Id Rat).run = part / total * factor := rfl

/-- The mean of numbers; 0 if there are none. -/
def meanOf (xs : List Rat) : Rat :=
  xs.sum / xs.length

theorem run_exceeds (part total : Int) (bound : Rat) :
    (exceeds Id Rat part total bound).run = decide (total ≠ 0 ∧ bound < part / total) := by
  by_cases h : total = 0
  · simp [exceeds, h]
  · simp [exceeds, h, Numeral.lt]

/-- A share is larger than one in `n` if `n` times the part are more than the whole. -/
theorem share_exceeds_iff {part total n : Int} {bound : Rat} (hbound : bound * n = 1) (hn : 0 < n)
    (htotal : 0 ≤ total) (hpart : total = 0 → part = 0) :
    (total ≠ 0 ∧ bound < part / total) ↔ total < n * part := by
  rcases htotal.eq_or_lt with hzero | hpos
  · simp [← hzero, hpart hzero.symm]
  · have hpos' : (0 : Rat) < total := Int.cast_pos.mpr hpos
    have hn' : (0 : Rat) < n := Int.cast_pos.mpr hn
    have hscaled : bound * total < part ↔ (total : Rat) < n * part := by
      rw [← mul_lt_mul_iff_right₀ hn', ← mul_assoc, mul_comm (n : Rat) bound, hbound, one_mul]
    rw [lt_div_iff₀ hpos', hscaled]
    constructor
    · rintro ⟨-, h⟩
      exact_mod_cast h
    · intro h
      exact ⟨hpos.ne', by exact_mod_cast h⟩

/-! ## Caps -/

/-- A score that is capped under a condition. -/
def capIf (p : Prop) [Decidable p] (cap score : Rat) : Rat :=
  if p then min score cap else score

section

variable {p q : Prop} [Decidable p] [Decidable q] {cap score score' : Rat}

theorem capIf_le (p : Prop) [Decidable p] (cap score : Rat) : capIf p cap score ≤ score := by
  unfold capIf
  split
  · exact min_le_left ..
  · exact le_rfl

theorem capIf_le_cap (hp : p) : capIf p cap score ≤ cap := by
  rw [capIf, if_pos hp]
  exact min_le_right ..

/-- A lower score is not lifted by a cap that also applies to the higher one. -/
theorem capIf_mono (hpq : p → q) (h : score' ≤ score) : capIf q cap score' ≤ capIf p cap score := by
  by_cases hp : p
  · rw [capIf, capIf, if_pos hp, if_pos (hpq hp)]
    exact min_le_min_right cap h
  · rw [capIf.eq_def p, if_neg hp]
    exact (capIf_le q cap score').trans h

end

/-! ## Rounding -/

/-- A number rounded to two decimals, a half going up. -/
def hundredths (x : Rat) : Rat :=
  ⌊x * 100 + 1 / 2⌋ / 100

@[simp] theorem run_roundHalfUp (x : Rat) : (roundHalfUp 2 x : Id Rat).run = hundredths x := rfl

theorem hundredths_mono {x y : Rat} (h : x ≤ y) : hundredths x ≤ hundredths y := by
  have hfloor : ⌊x * 100 + 1 / 2⌋ ≤ ⌊y * 100 + 1 / 2⌋ := Int.floor_mono (by linarith)
  have hcast : (⌊x * 100 + 1 / 2⌋ : Rat) ≤ ⌊y * 100 + 1 / 2⌋ := Int.cast_le.mpr hfloor
  unfold hundredths
  linarith

/-- A number of hundredths. -/
def IsHundredth (x : Rat) : Prop :=
  ∃ n : Int, x = n / 100

theorem isHundredth_hundredths (x : Rat) : IsHundredth (hundredths x) :=
  ⟨_, rfl⟩

theorem isHundredth_zero : IsHundredth 0 :=
  ⟨0, by simp⟩

theorem isHundredth_ofNat (n : Nat) [n.AtLeastTwo] : IsHundredth (OfNat.ofNat n) :=
  ⟨OfNat.ofNat n * 100, by simp⟩

theorem IsHundredth.max {x y : Rat} (hx : IsHundredth x) (hy : IsHundredth y) :
    IsHundredth (max x y) := by
  rcases max_choice x y with h | h
  · rwa [h]
  · rwa [h]

/-- Hundredths are left as they are. -/
theorem IsHundredth.hundredths_eq {x : Rat} (hx : IsHundredth x) : hundredths x = x := by
  obtain ⟨n, rfl⟩ := hx
  have hfloor : ⌊(n : Rat) / 100 * 100 + 1 / 2⌋ = n := by
    refine Int.floor_eq_iff.mpr ⟨?_, ?_⟩
    · linarith
    · linarith
  rw [hundredths, hfloor]

theorem hundredths_le {x y : Rat} (hy : IsHundredth y) (h : x ≤ y) : hundredths x ≤ y :=
  (hundredths_mono h).trans_eq hy.hundredths_eq

theorem le_hundredths {x y : Rat} (hx : IsHundredth x) (h : x ≤ y) : x ≤ hundredths y :=
  hx.hundredths_eq.symm.trans_le (hundredths_mono h)

/-! ## Units -/

/-- What a finding of a kind takes off. -/
def Weights.penaltyOf (weights : Weights Rat) (kind : IssueKind) : Rat :=
  if kind.isCritical then weights kind * (3 / 2) else weights kind

theorem run_deduction (weights : Weights Rat) (kinds : List IssueKind) :
    (deduction weights kinds : Id Rat).run = (kinds.map weights.penaltyOf).sum := by
  rw [deduction, List.foldlM_eq_foldl, List.sum_eq_foldl, List.foldl_map]
  rfl

/-- How much the size of a unit multiplies what its findings take off. -/
def sizeFactor (lines : Rat) : Rat :=
  min (1 + max lines 0 / 150) (5 / 2)

theorem run_sizeMultiplier (lines : Rat) :
    (sizeMultiplier lines : Id Rat).run = sizeFactor lines := by
  simp only [sizeMultiplier, sizeFactor, Id.run_bind, Id.run_pure, run_plus, run_dividedBy,
    larger_eq_max, smaller_eq_min, whole_rat, decimal_rat]
  norm_num

/-- The highest score that a number of critical findings leaves. -/
theorem ceilingFor_rat (critical : Nat) :
    (ceilingFor critical : Rat) = if 2 ≤ critical then 15 else if 0 < critical then 40 else 100 := by
  unfold ceilingFor
  by_cases hpos : 0 < critical
  · by_cases hmany : 2 ≤ critical
    · simp [hpos, hmany]
      norm_num
    · simp [hpos, hmany]
      norm_num
  · have hmany : ¬ 2 ≤ critical := by omega
    simp [hpos, hmany]

/-- The score of a unit from its penalties, before rounding. -/
def unitValue (weights : Weights Rat) (kinds : List IssueKind) (lines : Rat) : Rat :=
  max 0 (ceilingFor (kinds.countP IssueKind.isCritical) -
    (kinds.map weights.penaltyOf).sum * sizeFactor lines)

theorem run_unitScore (weights : Weights Rat) (kinds : List IssueKind) (lines : Rat) :
    (unitScore weights kinds lines : Id Rat).run = hundredths (unitValue weights kinds lines) := by
  simp only [unitScore, Id.run_bind, run_deduction, run_sizeMultiplier, run_times, run_minus,
    run_roundHalfUp, larger_eq_max, decimal_rat]
  rfl

/-- The record of a unit in exact arithmetic. -/
def UnitSample.scored (weights : Weights Rat) (u : UnitSample Rat) : UnitRecord Rat :=
  (unitRecord weights u : Id (UnitRecord Rat)).run

theorem UnitSample.qualityScore_scored (weights : Weights Rat) (u : UnitSample Rat) :
    (u.scored weights).qualityScore =
      hundredths (unitValue weights (u.issues.map Issue.kind) u.linesOfCode) :=
  run_unitScore weights _ _

/-- A unit with findings. -/
def UnitSample.isFaulty (u : UnitSample Rat) : Bool :=
  !u.issues.isEmpty

/-- A unit with findings of a critical kind. -/
def UnitSample.isCritical (u : UnitSample Rat) : Bool :=
  u.issues.any (·.kind.isCritical)

theorem UnitSample.isFaulty_of_isCritical {u : UnitSample Rat} (h : u.isCritical = true) :
    u.isFaulty = true := by
  unfold isCritical at h
  unfold isFaulty
  cases hissues : u.issues with
  | nil => rw [hissues] at h; cases h
  | cons i is => rfl

/-! ## Groups -/

/-- A group of units to be scored. -/
structure GroupSample where
  groupId : String := ""
  groupName : String := ""
  units : List (UnitSample Rat)

/-- The score of a group from the mean score and the mean complexity of its units and from how
many of them are faulty and critical, before caps and rounding. -/
def uncappedGroup (mean complexity : Rat) (total faulty critical : Nat) : Rat :=
  if total = 0 then 100
  else mean - critical / total * 60 - faulty / total * 25
    - (if faulty = 0 then 0 else min (complexity / (3 / 2)) 40)

/-- A score of a group with its caps. -/
def cappedGroup (score : Rat) (total faulty critical : Nat) : Rat :=
  capIf (total < 2 * faulty) 30 (capIf (critical ≠ 0) 50 score)

theorem run_groupMeans (records : List (UnitRecord Rat)) (faulty critical : Nat) :
    (groupMeans records faulty critical : Id (Rat × Rat)).run =
      (uncappedGroup (meanOf (records.map (·.qualityScore)))
          (meanOf (records.map (·.complexityScore))) records.length faulty critical,
        meanOf (records.map (·.complexityScore))) := by
  cases records with
  | nil => simp [groupMeans, uncappedGroup, meanOf]
  | cons r rs =>
    have hlength : (r :: rs).length ≠ 0 := by simp
    by_cases hfaulty : faulty = 0
    · simp [groupMeans, uncappedGroup, meanOf, hfaulty]
    · simp [groupMeans, uncappedGroup, meanOf, hfaulty]

namespace GroupSample

/-- The record of a group in exact arithmetic. -/
def scored (weights : Weights Rat) (g : GroupSample) : GroupRecord Rat :=
  (groupRecord weights g.groupId g.groupName g.units : Id (GroupRecord Rat)).run

/-- How many units of a group have findings. -/
def faulty (g : GroupSample) : Nat :=
  g.units.countP UnitSample.isFaulty

/-- How many units of a group have findings of a critical kind. -/
def critical (g : GroupSample) : Nat :=
  g.units.countP UnitSample.isCritical

/-- The mean score of the units of a group. -/
def meanQuality (weights : Weights Rat) (g : GroupSample) : Rat :=
  meanOf (g.units.map fun u => (u.scored weights).qualityScore)

/-- The mean complexity of the units of a group. -/
def meanComplexity (g : GroupSample) : Rat :=
  meanOf (g.units.map UnitSample.complexity)

variable (weights : Weights Rat) (g : GroupSample)

theorem scored_eq :
    g.scored weights =
      (groupRecordOf g.groupId g.groupName (g.units.map (·.scored weights)) :
        Id (GroupRecord Rat)).run := by
  rw [scored, groupRecord, Id.run_bind, List.idRun_mapM]
  rfl

theorem length_faulty :
    ((g.units.map (·.scored weights)).filter fun r => !r.issues.isEmpty).length = g.faulty := by
  rw [List.filter_map, List.length_map, ← List.countP_eq_length_filter]
  rfl

theorem length_critical :
    (((g.units.map (·.scored weights)).filter fun r => !r.issues.isEmpty).filter
      (·.hasCriticalIssue)).length = g.critical := by
  rw [List.filter_filter, List.filter_map, List.length_map, ← List.countP_eq_length_filter]
  refine List.countP_congr fun u _ => ?_
  constructor
  · intro h
    exact (Bool.and_eq_true_iff.mp h).1
  · intro h
    exact Bool.and_eq_true_iff.mpr ⟨h, UnitSample.isFaulty_of_isCritical h⟩

theorem units_scored : (g.scored weights).units = g.units.map (·.scored weights) := by
  rw [scored_eq]
  rfl

theorem mostlyFaulty_iff :
    ((g.units.length : Int) ≠ 0 ∧ (1 / 2 : Rat) < (g.faulty : Int) / (g.units.length : Int)) ↔
      g.units.length < 2 * g.faulty := by
  have hle : g.faulty ≤ g.units.length := List.countP_le_length
  have hshare := @share_exceeds_iff g.faulty g.units.length 2 (1 / 2) (by norm_num) (by norm_num)
    (Int.natCast_nonneg _) (by omega)
  rw [hshare]
  omega

/-- The score of a group, from the scores and complexities of its units. -/
theorem qualityScore_scored :
    (g.scored weights).qualityScore =
      max 0 (hundredths (cappedGroup
        (uncappedGroup (g.meanQuality weights) g.meanComplexity g.units.length g.faulty g.critical)
        g.units.length g.faulty g.critical)) := by
  have hempty : (((g.units.map (·.scored weights)).filter fun r => !r.issues.isEmpty).filter
      (·.hasCriticalIssue)).isEmpty = decide (g.critical = 0) := by
    rw [Bool.eq_iff_iff, List.isEmpty_iff_length_eq_zero, length_critical, decide_eq_true_iff]
  rw [scored_eq, groupRecordOf]
  simp only [Id.run_bind, Id.run_pure, larger_eq_max, smaller_eq_min, decimal_rat, whole_rat,
    run_roundHalfUp, run_groupMeans, run_exceeds, length_faulty, length_critical, List.length_map,
    List.map_map, hempty, mostlyFaulty_iff, decide_eq_true_eq, cappedGroup, capIf, ne_eq, ite_not]
  rfl

theorem complexityScore_scored :
    (g.scored weights).complexityScore = hundredths g.meanComplexity := by
  rw [scored_eq, groupRecordOf]
  simp only [Id.run_bind, Id.run_pure, run_roundHalfUp, run_groupMeans, List.map_map]
  rfl

theorem totalUnits_scored : (g.scored weights).totalUnits = g.units.length := by
  rw [scored_eq, ← List.length_map (f := (·.scored weights))]
  rfl

theorem unitsWithIssues_scored : (g.scored weights).unitsWithIssues = g.faulty := by
  rw [scored_eq, ← length_faulty weights]
  rfl

theorem unitsWithCriticalIssues_scored :
    (g.scored weights).unitsWithCriticalIssues = g.critical := by
  rw [scored_eq, ← length_critical weights]
  rfl

theorem totalIssues_scored :
    (g.scored weights).totalIssues = (g.units.map fun u => (u.issues.length : Int)).sum := by
  rw [scored_eq]
  exact congrArg List.sum List.map_map

end GroupSample

/-! ## Systems -/

section

variable (groups : List (GroupRecord Rat))

/-- How many units groups have. -/
def unitsIn : Int :=
  (groups.map (·.totalUnits)).sum

/-- How many units of groups have findings. -/
def faultyIn : Int :=
  (groups.map (·.unitsWithIssues)).sum

/-- How many units of groups have findings of a critical kind. -/
def criticalIn : Int :=
  (groups.map (·.unitsWithCriticalIssues)).sum

/-- How many findings groups have. -/
def issuesIn : Int :=
  (groups.map (·.totalIssues)).sum

/-- The mean of a measure of groups, each counted with its number of units. -/
def unitMean (measure : GroupRecord Rat → Rat) : Rat :=
  (groups.map fun g => measure g * g.totalUnits).sum / unitsIn groups

theorem run_meanByUnits (measure : GroupRecord Rat → Rat) :
    (meanByUnits measure (unitsIn groups) groups : Id Rat).run = unitMean groups measure := by
  simp only [meanByUnits, Id.run_bind, List.idRun_mapM, run_times, run_sumOf, run_dividedBy,
    whole_rat]
  rfl

/-- The overall quality of a system from the mean score of its groups and from its counts, before
rounding. -/
def systemValue (mean : Rat) (total faulty critical : Int) : Rat :=
  capIf (critical ≠ 0) 65
    (capIf (total ≠ 0 ∧ (1 / 4 : Rat) < faulty / total) 60 (mean - critical / total * 70))

/-- The technical debt of a system from the number of findings for each unit and the share of
critical units, before rounding. -/
def debtValue (issuesPerUnit criticalShare : Rat) : Rat :=
  min (min (issuesPerUnit * 35) 100 + criticalShare * 40) 100

theorem run_overallQuality (faulty critical : Int) :
    (overallQuality groups (unitsIn groups) faulty critical : Id Rat).run =
      systemValue (unitMean groups (·.qualityScore)) (unitsIn groups) faulty critical := by
  simp only [overallQuality, Id.run_bind, Id.run_pure, run_meanByUnits, run_minus, run_shareTimes,
    run_exceeds, smaller_eq_min, whole_rat, decide_eq_true_eq, systemValue, capIf, Int.cast_ofNat,
    ne_eq, ite_not]

theorem run_technicalDebt (issues total critical : Int) :
    (technicalDebt issues total critical : Id Rat).run =
      debtValue (issues / total) (critical / total) := by
  simp only [technicalDebt, debtValue, Id.run_bind, Id.run_pure, run_plus, run_shareTimes,
    smaller_eq_min, whole_rat, Int.cast_ofNat]

/-- The record of a system in exact arithmetic, when there are units. -/
theorem run_systemRecord (h : unitsIn groups ≠ 0) :
    (systemRecord groups : Id (SystemRecord Rat)).run =
      { overallQuality := max 0 (hundredths (systemValue (unitMean groups (·.qualityScore))
          (unitsIn groups) (faultyIn groups) (criticalIn groups)))
        technicalDebt :=
          hundredths (debtValue (issuesIn groups / unitsIn groups)
            (criticalIn groups / unitsIn groups))
        complexity := hundredths (unitMean groups (·.complexityScore))
        groupCount := groups.length
        affectedUnits := faultyIn groups
        criticalUnits := criticalIn groups } := by
  have htotal : sumOfCounts (groups.map (·.totalUnits)) = unitsIn groups := rfl
  simp only [systemRecord, htotal, if_neg h, Id.run_bind, Id.run_pure, run_overallQuality,
    run_technicalDebt, run_meanByUnits, run_roundHalfUp, larger_eq_max, decimal_rat]
  rfl

/-- The record of a system without units. -/
theorem run_systemRecord_of_unitsIn_eq_zero (h : unitsIn groups = 0) :
    (systemRecord groups : Id (SystemRecord Rat)).run =
      { overallQuality := 100
        technicalDebt := 0
        complexity := 0
        groupCount := groups.length
        affectedUnits := faultyIn groups
        criticalUnits := criticalIn groups } := by
  have htotal : sumOfCounts (groups.map (·.totalUnits)) = unitsIn groups := rfl
  have hhundred : max 0 (hundredths 100) = 100 := by
    rw [(isHundredth_ofNat 100).hundredths_eq]
    norm_num
  have hzero : hundredths 0 = 0 := isHundredth_zero.hundredths_eq
  simp only [systemRecord, htotal, if_pos h, Id.run_bind, Id.run_pure, run_roundHalfUp,
    larger_eq_max, decimal_rat, hhundred, hzero]
  rfl

end

/-- The record of the system that groups make up, in exact arithmetic. -/
def systemOf (weights : Weights Rat) (groups : List GroupSample) : SystemRecord Rat :=
  (systemRecord (groups.map (·.scored weights)) : Id (SystemRecord Rat)).run

/-- The units of all groups. -/
def allUnits (groups : List GroupSample) : List (UnitSample Rat) :=
  groups.flatMap GroupSample.units

section

variable (weights : Weights Rat) (groups : List GroupSample)

/-- How many findings units have. -/
def issueTotal (units : List (UnitSample Rat)) : Int :=
  (units.map fun u => (u.issues.length : Int)).sum

/-- What the records of groups count is counted in all their units. -/
theorem sum_over_groups {field : GroupRecord Rat → Int} (count : List (UnitSample Rat) → Int)
    (hfield : ∀ g : GroupSample, field (g.scored weights) = count g.units)
    (hnil : count [] = 0) (happend : ∀ us vs, count (us ++ vs) = count us + count vs) :
    ((groups.map (·.scored weights)).map field).sum = count (allUnits groups) := by
  induction groups with
  | nil => exact hnil.symm
  | cons g gs ih =>
    have hunits : allUnits (g :: gs) = g.units ++ allUnits gs := List.flatMap_cons
    rw [List.map_cons, List.map_cons, List.sum_cons, ih, hfield, hunits, happend]

theorem unitsIn_scored :
    unitsIn (groups.map (·.scored weights)) = (allUnits groups).length :=
  sum_over_groups weights groups (fun units => units.length) (·.totalUnits_scored weights) rfl
    fun us vs => by simp

theorem faultyIn_scored :
    faultyIn (groups.map (·.scored weights)) = (allUnits groups).countP UnitSample.isFaulty :=
  sum_over_groups weights groups (fun units => units.countP UnitSample.isFaulty)
    (·.unitsWithIssues_scored weights) rfl fun us vs => by simp

theorem criticalIn_scored :
    criticalIn (groups.map (·.scored weights)) =
      (allUnits groups).countP UnitSample.isCritical :=
  sum_over_groups weights groups (fun units => units.countP UnitSample.isCritical)
    (·.unitsWithCriticalIssues_scored weights) rfl fun us vs => by simp

theorem issuesIn_scored :
    issuesIn (groups.map (·.scored weights)) = issueTotal (allUnits groups) :=
  sum_over_groups weights groups issueTotal (·.totalIssues_scored weights) rfl
    fun us vs => by simp [issueTotal]

/-- The mean of a measure of groups over all their units. -/
def meanOver (measure : GroupRecord Rat → Rat) : Rat :=
  unitMean (groups.map (·.scored weights)) measure

/-- The record of a system, from the records of its groups and the counts of its units. -/
theorem systemOf_eq (h : allUnits groups ≠ []) :
    systemOf weights groups =
      { overallQuality := max 0 (hundredths (systemValue (meanOver weights groups (·.qualityScore))
          (allUnits groups).length ((allUnits groups).countP UnitSample.isFaulty)
          ((allUnits groups).countP UnitSample.isCritical)))
        technicalDebt := hundredths (debtValue
          (issueTotal (allUnits groups) / (allUnits groups).length)
          ((allUnits groups).countP UnitSample.isCritical / (allUnits groups).length))
        complexity := hundredths (meanOver weights groups (·.complexityScore))
        groupCount := groups.length
        affectedUnits := (allUnits groups).countP UnitSample.isFaulty
        criticalUnits := (allUnits groups).countP UnitSample.isCritical } := by
  have hunits : unitsIn (groups.map (·.scored weights)) ≠ 0 := by
    rw [unitsIn_scored]
    exact Int.natCast_ne_zero.mpr (mt List.length_eq_zero_iff.mp h)
  rw [systemOf, run_systemRecord _ hunits, unitsIn_scored, faultyIn_scored, criticalIn_scored,
    issuesIn_scored, List.length_map]
  rfl

/-- The record of a system without units. -/
theorem systemOf_eq_of_no_units (h : allUnits groups = []) :
    systemOf weights groups =
      { overallQuality := 100
        technicalDebt := 0
        complexity := 0
        groupCount := groups.length
        affectedUnits := 0
        criticalUnits := 0 } := by
  have hunits : unitsIn (groups.map (·.scored weights)) = 0 := by
    rw [unitsIn_scored, h]
    rfl
  rw [systemOf, run_systemRecord_of_unitsIn_eq_zero _ hunits, faultyIn_scored, criticalIn_scored,
    List.length_map, h]
  rfl

end

end FlowLint
