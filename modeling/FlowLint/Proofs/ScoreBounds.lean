import FlowLint.Proofs.Exact
import Mathlib.Algebra.BigOperators.Ring.Finset
import Mathlib.Algebra.Order.BigOperators.Group.List

/-!
# Bounds on scores

In exact arithmetic, and with weights that are not negative, every score lies between 0 and 100,
and findings cap the score that can be reached.

* `UnitSample.Bounded`, `GroupSample.Bounded` and `SystemBounded` are the bounds at the three
  levels.
* `scores_bounded`: they hold for all units whose complexity is not negative.

A cap is a number of hundredths, so rounding does not lift a score above it. The score of a system
stays below that of its best group because that score is a number of hundredths, too.
-/

namespace FlowLint

variable {weights : Weights Rat}

/-! ## Units -/

theorem penaltyOf_nonneg (hw : ∀ kind, 0 ≤ weights kind) (kind : IssueKind) :
    0 ≤ weights.penaltyOf kind := by
  unfold Weights.penaltyOf
  split
  · exact mul_nonneg (hw kind) (by norm_num)
  · exact hw kind

theorem penalties_nonneg (hw : ∀ kind, 0 ≤ weights kind) (kinds : List IssueKind) :
    0 ≤ (kinds.map weights.penaltyOf).sum := by
  refine List.sum_nonneg fun x hx => ?_
  obtain ⟨kind, -, rfl⟩ := List.mem_map.mp hx
  exact penaltyOf_nonneg hw kind

theorem sizeFactor_nonneg (lines : Rat) : 0 ≤ sizeFactor lines := by
  have hlines : 0 ≤ max lines 0 / 150 := div_nonneg (le_max_right ..) (by norm_num)
  exact le_min (by linarith) (by norm_num)

theorem ceilingFor_nonneg (critical : Nat) : (0 : Rat) ≤ ceilingFor critical := by
  rw [ceilingFor_rat]
  split_ifs <;> norm_num

theorem unitValue_le_ceilingFor (hw : ∀ kind, 0 ≤ weights kind) (kinds : List IssueKind)
    (lines : Rat) :
    unitValue weights kinds lines ≤ ceilingFor (kinds.countP IssueKind.isCritical) := by
  have htaken : 0 ≤ (kinds.map weights.penaltyOf).sum * sizeFactor lines :=
    mul_nonneg (penalties_nonneg hw kinds) (sizeFactor_nonneg lines)
  exact max_le (ceilingFor_nonneg _) (by linarith)

/-- The score of a unit is at most what its critical findings leave. -/
theorem unitScore_le {u : UnitSample Rat} (hw : ∀ kind, 0 ≤ weights kind) {cap : Rat}
    (hcap : IsHundredth cap)
    (h : ceilingFor (u.issues.countP fun i => i.kind.isCritical) ≤ cap) :
    (u.scored weights).qualityScore ≤ cap := by
  rw [u.qualityScore_scored]
  refine hundredths_le hcap ((unitValue_le_ceilingFor hw _ _).trans ?_)
  rwa [List.countP_map]

/-- Bounds on the score of a unit. -/
structure UnitSample.Bounded (weights : Weights Rat) (u : UnitSample Rat) : Prop where
  range : 0 ≤ (u.scored weights).qualityScore ∧ (u.scored weights).qualityScore ≤ 100
  critical : (∃ i ∈ u.issues, i.kind.isCritical = true) → (u.scored weights).qualityScore ≤ 40
  manyCritical : 2 ≤ u.issues.countP (fun i => i.kind.isCritical) →
    (u.scored weights).qualityScore ≤ 15

theorem UnitSample.bounded (hw : ∀ kind, 0 ≤ weights kind) (u : UnitSample Rat) :
    u.Bounded weights where
  range := by
    constructor
    · rw [u.qualityScore_scored]
      exact le_hundredths isHundredth_zero (le_max_left ..)
    · refine unitScore_le hw (isHundredth_ofNat 100) ?_
      rw [ceilingFor_rat]
      split_ifs <;> norm_num
  critical := by
    intro h
    have hpos : 0 < u.issues.countP fun i => i.kind.isCritical := List.countP_pos_iff.mpr h
    refine unitScore_le hw (isHundredth_ofNat 40) ?_
    rw [ceilingFor_rat, if_pos hpos]
    split_ifs <;> norm_num
  manyCritical := by
    intro h
    refine unitScore_le hw (isHundredth_ofNat 15) ?_
    rw [ceilingFor_rat, if_pos h]

/-! ## Groups -/

theorem meanOf_le {xs : List Rat} {b : Rat} (hb : 0 ≤ b) (h : ∀ x ∈ xs, x ≤ b) :
    meanOf xs ≤ b := by
  have hsum : xs.sum ≤ xs.length * b := by
    rw [← nsmul_eq_mul]
    exact List.sum_le_card_nsmul xs b h
  exact div_le_of_le_mul₀ (Nat.cast_nonneg _) hb (by linarith)

theorem meanOf_nonneg {xs : List Rat} (h : ∀ x ∈ xs, 0 ≤ x) : 0 ≤ meanOf xs :=
  div_nonneg (List.sum_nonneg h) (Nat.cast_nonneg _)

theorem uncappedGroup_le {mean complexity : Rat} (hmean : mean ≤ 100) (hcomplexity : 0 ≤ complexity)
    (total faulty critical : Nat) :
    uncappedGroup mean complexity total faulty critical ≤ 100 := by
  unfold uncappedGroup
  split
  · exact le_rfl
  · have hcritical : (0 : Rat) ≤ critical / total * 60 := by positivity
    have hfaulty : (0 : Rat) ≤ faulty / total * 25 := by positivity
    have hcomplex : 0 ≤ if faulty = 0 then 0 else min (complexity / (3 / 2)) 40 := by
      split
      · exact le_rfl
      · exact le_min (by positivity) (by norm_num)
    linarith

theorem cappedGroup_le (score : Rat) (total faulty critical : Nat) :
    cappedGroup score total faulty critical ≤ score :=
  (capIf_le ..).trans (capIf_le ..)

/-- The score of a group is at most a number of hundredths that its capped score does not
exceed. -/
theorem groupScore_le {g : GroupSample} {cap : Rat} (hcap : IsHundredth cap) (hpos : 0 ≤ cap)
    (h : cappedGroup (uncappedGroup (g.meanQuality weights) g.meanComplexity g.units.length
      g.faulty g.critical) g.units.length g.faulty g.critical ≤ cap) :
    (g.scored weights).qualityScore ≤ cap := by
  rw [g.qualityScore_scored]
  exact max_le hpos (hundredths_le hcap h)

/-- Bounds on the scores of a group. -/
structure GroupSample.Bounded (weights : Weights Rat) (g : GroupSample) : Prop where
  range : 0 ≤ (g.scored weights).qualityScore ∧ (g.scored weights).qualityScore ≤ 100
  complexity : 0 ≤ (g.scored weights).complexityScore
  critical : (∃ u ∈ g.units, u.isCritical = true) → (g.scored weights).qualityScore ≤ 50
  mostlyFaulty : g.units.length < 2 * g.units.countP UnitSample.isFaulty →
    (g.scored weights).qualityScore ≤ 30
  empty : g.units = [] →
    (g.scored weights).qualityScore = 100 ∧ (g.scored weights).complexityScore = 0

theorem GroupSample.bounded (hw : ∀ kind, 0 ≤ weights kind) (g : GroupSample)
    (hc : ∀ u ∈ g.units, 0 ≤ u.complexity) : g.Bounded weights := by
  have hcomplexity : 0 ≤ g.meanComplexity := by
    refine meanOf_nonneg fun x hx => ?_
    obtain ⟨u, hu, rfl⟩ := List.mem_map.mp hx
    exact hc u hu
  have hquality : g.meanQuality weights ≤ 100 := by
    refine meanOf_le (by norm_num) fun x hx => ?_
    obtain ⟨u, -, rfl⟩ := List.mem_map.mp hx
    exact (u.bounded hw).range.2
  refine ⟨⟨?_, ?_⟩, ?_, ?_, ?_, ?_⟩
  · rw [g.qualityScore_scored]
    exact le_max_left ..
  · refine groupScore_le (isHundredth_ofNat 100) (by norm_num) ?_
    exact (cappedGroup_le ..).trans (uncappedGroup_le hquality hcomplexity ..)
  · rw [g.complexityScore_scored]
    exact le_hundredths isHundredth_zero hcomplexity
  · intro h
    have hpos : 0 < g.critical := List.countP_pos_iff.mpr h
    refine groupScore_le (isHundredth_ofNat 50) (by norm_num) ?_
    exact (capIf_le ..).trans (capIf_le_cap hpos.ne')
  · intro h
    exact groupScore_le (isHundredth_ofNat 30) (by norm_num) (capIf_le_cap h)
  · intro h
    have hmean : g.meanComplexity = 0 := by simp [meanComplexity, meanOf, h]
    have hcounts : g.units.length = 0 ∧ g.faulty = 0 ∧ g.critical = 0 := by
      simp [GroupSample.faulty, GroupSample.critical, h]
    rw [g.qualityScore_scored, g.complexityScore_scored, hmean, hcounts.1, hcounts.2.1,
      hcounts.2.2, isHundredth_zero.hundredths_eq]
    simp [uncappedGroup, cappedGroup, capIf, (isHundredth_ofNat 100).hundredths_eq]

/-! ## Systems -/

theorem unitMean_nonneg {records : List (GroupRecord Rat)} {measure : GroupRecord Rat → Rat}
    (htotal : ∀ r ∈ records, 0 ≤ r.totalUnits) (hmeasure : ∀ r ∈ records, 0 ≤ measure r) :
    0 ≤ unitMean records measure := by
  have hunits : 0 ≤ unitsIn records := by
    refine List.sum_nonneg fun n hn => ?_
    obtain ⟨r, hr, rfl⟩ := List.mem_map.mp hn
    exact htotal r hr
  refine div_nonneg (List.sum_nonneg fun x hx => ?_) (Int.cast_nonneg hunits)
  obtain ⟨r, hr, rfl⟩ := List.mem_map.mp hx
  exact mul_nonneg (hmeasure r hr) (Int.cast_nonneg (htotal r hr))

/-- Some group with units reaches the mean: otherwise every group would be below it, and so would
their sum. -/
theorem exists_unitMean_le {records : List (GroupRecord Rat)} (measure : GroupRecord Rat → Rat)
    (htotal : ∀ r ∈ records, 0 ≤ r.totalUnits) (hunits : unitsIn records ≠ 0) :
    ∃ r ∈ records, 0 < r.totalUnits ∧ unitMean records measure ≤ measure r := by
  by_contra hnone
  push Not at hnone
  let mean := unitMean records measure
  have hle : ∀ r ∈ records, measure r * r.totalUnits ≤ mean * r.totalUnits := by
    intro r hr
    rcases (htotal r hr).eq_or_lt with hzero | hpos
    · simp [← hzero]
    · exact mul_le_mul_of_nonneg_right (hnone r hr hpos).le (Int.cast_nonneg hpos.le)
  have hlt : ∃ r ∈ records, measure r * r.totalUnits < mean * r.totalUnits := by
    by_contra hall
    push Not at hall
    refine hunits (List.sum_eq_zero fun n hn => ?_)
    obtain ⟨r, hr, rfl⟩ := List.mem_map.mp hn
    refine ((htotal r hr).eq_or_lt.resolve_right fun hpos => ?_).symm
    have hpos' : (0 : Rat) < r.totalUnits := Int.cast_pos.mpr hpos
    exact absurd (hall r hr) (not_le.mpr (mul_lt_mul_of_pos_right (hnone r hr hpos) hpos'))
  have hcast : (unitsIn records : Rat) = (records.map fun r => (r.totalUnits : Rat)).sum := by
    rw [unitsIn, Int.cast_list_sum, List.map_map]
    rfl
  have hsum : (records.map fun r => measure r * r.totalUnits).sum = mean * unitsIn records :=
    (div_mul_cancel₀ _ (Int.cast_ne_zero.mpr hunits)).symm
  have hstrict := List.sum_lt_sum _ _ hle hlt
  rw [hsum, List.sum_map_mul_left, hcast] at hstrict
  exact lt_irrefl _ hstrict

theorem systemValue_le (mean : Rat) (total faulty critical : Nat) :
    systemValue mean total faulty critical ≤ mean := by
  have hshare : (0 : Rat) ≤ (critical : Int) / (total : Int) * 70 := by positivity
  exact (capIf_le ..).trans ((capIf_le ..).trans (by linarith))

theorem systemValue_le_sixtyFive {critical : Nat} (h : 0 < critical) (mean : Rat)
    (total faulty : Nat) : systemValue mean total faulty critical ≤ 65 :=
  capIf_le_cap (Int.natCast_ne_zero.mpr h.ne')

theorem systemValue_le_sixty {total faulty : Nat} (hle : faulty ≤ total) (h : total < 4 * faulty)
    (mean : Rat) (critical : Nat) : systemValue mean total faulty critical ≤ 60 := by
  have hshare : ((total : Int) ≠ 0 ∧ (1 / 4 : Rat) < (faulty : Int) / (total : Int)) := by
    refine (@share_exceeds_iff faulty total 4 _ (by norm_num) (by norm_num)
      (Int.natCast_nonneg _) ?_).mpr ?_
    · omega
    · omega
  exact (capIf_le ..).trans (capIf_le_cap hshare)

theorem debtValue_nonneg {issuesPerUnit criticalShare : Rat} (hissues : 0 ≤ issuesPerUnit)
    (hcritical : 0 ≤ criticalShare) : 0 ≤ debtValue issuesPerUnit criticalShare := by
  have hfirst : 0 ≤ min (issuesPerUnit * 35) 100 := le_min (by positivity) (by norm_num)
  exact le_min (by positivity) (by norm_num)

theorem issueTotal_nonneg (units : List (UnitSample Rat)) : 0 ≤ issueTotal units := by
  refine List.sum_nonneg fun n hn => ?_
  obtain ⟨u, -, rfl⟩ := List.mem_map.mp hn
  exact Int.natCast_nonneg _

/-- Bounds on the scores of a system. -/
structure SystemBounded (weights : Weights Rat) (groups : List GroupSample) : Prop where
  range : 0 ≤ (systemOf weights groups).overallQuality ∧
    (systemOf weights groups).overallQuality ≤ 100
  best : (∃ g ∈ groups, g.units ≠ []) → ∃ g ∈ groups, g.units ≠ [] ∧
    (systemOf weights groups).overallQuality ≤ (g.scored weights).qualityScore
  critical : (∃ u ∈ allUnits groups, u.isCritical = true) →
    (systemOf weights groups).overallQuality ≤ 65
  widelyFaulty : (allUnits groups).length < 4 * (allUnits groups).countP UnitSample.isFaulty →
    (systemOf weights groups).overallQuality ≤ 60
  debt : 0 ≤ (systemOf weights groups).technicalDebt ∧
    (systemOf weights groups).technicalDebt ≤ 100
  complexity : 0 ≤ (systemOf weights groups).complexity
  empty : (∀ g ∈ groups, g.units = []) → (systemOf weights groups).overallQuality = 100 ∧
    (systemOf weights groups).technicalDebt = 0 ∧ (systemOf weights groups).complexity = 0

variable {groups : List GroupSample}

theorem systemBounded_of_no_units (h : allUnits groups = []) : SystemBounded weights groups := by
  have hsystem := systemOf_eq_of_no_units weights groups h
  constructor
  case range =>
    rw [hsystem]
    norm_num
  case best =>
    rintro ⟨g, hg, hne⟩
    exact absurd (List.flatMap_eq_nil_iff.mp h g hg) hne
  case critical =>
    rintro ⟨u, hu, -⟩
    rw [h] at hu
    cases hu
  case widelyFaulty =>
    intro hfaulty
    rw [h] at hfaulty
    cases hfaulty
  case debt =>
    rw [hsystem]
    norm_num
  case complexity => rw [hsystem]
  case empty =>
    intro _
    rw [hsystem]
    exact ⟨rfl, rfl, rfl⟩

/-- The overall quality of a system is at most a number of hundredths that its value before
rounding does not exceed. -/
theorem overallQuality_le (hunits : allUnits groups ≠ []) {cap : Rat} (hcap : IsHundredth cap)
    (hpos : 0 ≤ cap)
    (h : systemValue (meanOver weights groups (·.qualityScore)) (allUnits groups).length
      ((allUnits groups).countP UnitSample.isFaulty)
      ((allUnits groups).countP UnitSample.isCritical) ≤ cap) :
    (systemOf weights groups).overallQuality ≤ cap := by
  rw [systemOf_eq weights groups hunits]
  exact max_le hpos (hundredths_le hcap h)

theorem isHundredth_qualityScore (g : GroupSample) :
    IsHundredth (g.scored weights).qualityScore := by
  rw [g.qualityScore_scored]
  exact isHundredth_zero.max (isHundredth_hundredths _)

theorem totalUnits_nonneg : ∀ r ∈ groups.map (·.scored weights), 0 ≤ r.totalUnits := by
  intro r hr
  obtain ⟨g, -, rfl⟩ := List.mem_map.mp hr
  rw [g.totalUnits_scored]
  exact Int.natCast_nonneg _

/-- A system with units is no better than one of its groups with units. -/
theorem exists_overallQuality_le (hunits : allUnits groups ≠ [])
    (hgroups : ∀ g ∈ groups, g.Bounded weights) :
    ∃ g ∈ groups, g.units ≠ [] ∧
      (systemOf weights groups).overallQuality ≤ (g.scored weights).qualityScore := by
  have hne : unitsIn (groups.map (·.scored weights)) ≠ 0 := by
    rw [unitsIn_scored]
    exact Int.natCast_ne_zero.mpr (mt List.length_eq_zero_iff.mp hunits)
  obtain ⟨r, hr, hpos, hmean⟩ := exists_unitMean_le (·.qualityScore) totalUnits_nonneg hne
  obtain ⟨g, hg, rfl⟩ := List.mem_map.mp hr
  refine ⟨g, hg, ?_, ?_⟩
  · rintro hempty
    rw [g.totalUnits_scored, hempty] at hpos
    cases hpos
  · exact overallQuality_le hunits (isHundredth_qualityScore g) (hgroups g hg).range.1
      ((systemValue_le ..).trans hmean)

theorem systemBounded_of_units (hunits : allUnits groups ≠ [])
    (hgroups : ∀ g ∈ groups, g.Bounded weights) : SystemBounded weights groups := by
  have hsystem := systemOf_eq weights groups hunits
  have hbest := exists_overallQuality_le hunits hgroups
  constructor
  case range =>
    obtain ⟨g, hg, -, hle⟩ := hbest
    refine ⟨?_, hle.trans (hgroups g hg).range.2⟩
    rw [hsystem]
    exact le_max_left ..
  case best => exact fun _ => hbest
  case critical =>
    intro hany
    have hpos := List.countP_pos_iff.mpr hany
    exact overallQuality_le hunits (isHundredth_ofNat 65) (by norm_num)
      (systemValue_le_sixtyFive hpos ..)
  case widelyFaulty =>
    intro hmany
    exact overallQuality_le hunits (isHundredth_ofNat 60) (by norm_num)
      (systemValue_le_sixty List.countP_le_length hmany ..)
  case debt =>
    rw [hsystem]
    have hissues : (0 : Rat) ≤ issueTotal (allUnits groups) :=
      Int.cast_nonneg (issueTotal_nonneg _)
    refine ⟨le_hundredths isHundredth_zero (debtValue_nonneg ?_ ?_),
      hundredths_le (isHundredth_ofNat 100) (min_le_right ..)⟩
    · positivity
    · positivity
  case complexity =>
    rw [hsystem]
    refine le_hundredths isHundredth_zero (unitMean_nonneg totalUnits_nonneg fun r hr => ?_)
    obtain ⟨g, hg, rfl⟩ := List.mem_map.mp hr
    exact (hgroups g hg).complexity
  case empty => exact fun hempty => absurd (List.flatMap_eq_nil_iff.mpr hempty) hunits

/-- **Bounds.** With weights that are not negative, and for units whose complexity is not negative,
the scores of all units, of all groups and of the system keep their bounds. -/
theorem scores_bounded (hw : ∀ kind, 0 ≤ weights kind)
    (hc : ∀ g ∈ groups, ∀ u ∈ g.units, 0 ≤ u.complexity) :
    (∀ g ∈ groups, (g.scored weights).units = g.units.map (·.scored weights) ∧
      (∀ u ∈ g.units, u.Bounded weights) ∧ g.Bounded weights) ∧ SystemBounded weights groups := by
  have hgroups : ∀ g ∈ groups, g.Bounded weights := fun g hg => g.bounded hw (hc g hg)
  refine ⟨fun g hg => ⟨g.units_scored weights, fun u _ => u.bounded hw, hgroups g hg⟩, ?_⟩
  by_cases hunits : allUnits groups = []
  · exact systemBounded_of_no_units hunits
  · exact systemBounded_of_units hunits hgroups

/-- Four units, of which one has two critical findings. -/
def oneCriticalUnit : GroupSample :=
  { units := [
      { issues := [.found .debuggerStatement "" (.ofLines 1 1 1 10) none,
          .found .emptyReturn "" (.ofLines 2 1 2 8) none], linesOfCode := 2, complexity := 0 },
      { linesOfCode := 1, complexity := 0 }, { linesOfCode := 0, complexity := 1 },
      { linesOfCode := -1, complexity := 0 }] }

/-- Where findings weigh nothing, the caps alone decide: 15 for the unit and 50 for its group. The
group without units does not count. -/
theorem scores_bounded_caps :
    (∀ kind : IssueKind, (0 : Rat) ≤ (fun _ => 0 : Weights Rat) kind) ∧
      (∀ g ∈ [oneCriticalUnit, { units := [] }], ∀ u ∈ g.units, 0 ≤ u.complexity) ∧
      (∀ g ∈ [oneCriticalUnit, { units := [] }],
        (g.scored fun _ => 0).units = g.units.map (·.scored fun _ => 0) ∧
          (∀ u ∈ g.units, u.Bounded fun _ => 0) ∧ g.Bounded fun _ => 0) ∧
      SystemBounded (fun _ => 0) [oneCriticalUnit, { units := [] }] ∧
      (oneCriticalUnit.scored fun _ => 0).units.map (·.qualityScore) = [15, 100, 100, 100] ∧
      (oneCriticalUnit.scored fun _ => 0).qualityScore = 50 ∧
      (systemOf (fun _ => 0) [oneCriticalUnit, { units := [] }]).overallQuality = 65 / 2 := by
  have hweights : ∀ kind : IssueKind, (0 : Rat) ≤ (fun _ => 0 : Weights Rat) kind := fun _ => le_rfl
  have hcomplexity : ∀ g ∈ [oneCriticalUnit, { units := [] }], ∀ u ∈ g.units, 0 ≤ u.complexity := by
    decide +kernel
  obtain ⟨hgroups, hsystem⟩ := scores_bounded hweights hcomplexity
  exact ⟨hweights, hcomplexity, hgroups, hsystem, by decide +kernel, by decide +kernel,
    by decide +kernel⟩

end FlowLint
