import FlowLint.Proofs.Exact
import FlowLint.Proofs.FirstSeen

/-!
# Order does not matter

Scores are computed along lists: findings in a unit, units in a group, groups in a system. In exact
arithmetic none of them depends on the order of a list, and a group without units only counts as
one group more.

* `UnitSample.Rearranged`, `GroupSample.Rearranged`: the same findings and the same units in
  another order.
* `UnitRecord.SameNumbers`, `GroupRecord.SameNumbers`: records that differ in nothing but the order
  of what they list. `GroupSample.sameNumbers`: this is so after a rearrangement.
* `systemScored_perm`, `systemScored_insert`: groups in another order, and a group without units.
-/

namespace FlowLint

/-! ## Sums and means -/

theorem meanOf_perm {xs ys : List Rat} (h : xs.Perm ys) : meanOf xs = meanOf ys := by
  rw [meanOf, meanOf, h.sum_eq, h.length_eq]

/-! ## Units -/

/-- The same unit with its findings in another order. -/
structure UnitSample.Rearranged (u v : UnitSample Rat) : Prop where
  issues : u.issues.Perm v.issues
  linesOfCode : v.linesOfCode = u.linesOfCode
  complexity : v.complexity = u.complexity
  unitId : v.unitId = u.unitId
  unitName : v.unitName = u.unitName

/-- Records of a unit that differ in nothing but the order of the findings. -/
structure UnitRecord.SameNumbers (r s : UnitRecord Rat) : Prop where
  unitId : s.unitId = r.unitId
  unitName : s.unitName = r.unitName
  issues : r.issues.Perm s.issues
  linesOfCode : s.linesOfCode = r.linesOfCode
  complexityScore : s.complexityScore = r.complexityScore
  qualityScore : s.qualityScore = r.qualityScore
  hasCriticalIssue : s.hasCriticalIssue = r.hasCriticalIssue

variable {weights : Weights Rat} {u v : UnitSample Rat}

theorem unitValue_perm {kinds kinds' : List IssueKind} (h : kinds.Perm kinds') (lines : Rat) :
    unitValue weights kinds lines = unitValue weights kinds' lines := by
  rw [unitValue, unitValue, h.countP_eq, (h.map _).sum_eq]

namespace UnitSample.Rearranged

theorem length_issues (h : u.Rearranged v) : u.issues.length = v.issues.length :=
  h.issues.length_eq

theorem isFaulty (h : u.Rearranged v) : u.isFaulty = v.isFaulty := by
  rw [Bool.eq_iff_iff, UnitSample.isFaulty, UnitSample.isFaulty, Bool.not_eq_true',
    Bool.not_eq_true', List.isEmpty_eq_false_iff, List.isEmpty_eq_false_iff,
    ← List.length_pos_iff, ← List.length_pos_iff, h.length_issues]

theorem isCritical (h : u.Rearranged v) : u.isCritical = v.isCritical :=
  h.issues.any_eq

theorem qualityScore (h : u.Rearranged v) :
    (u.scored weights).qualityScore = (v.scored weights).qualityScore := by
  rw [UnitSample.qualityScore_scored, UnitSample.qualityScore_scored, h.linesOfCode,
    unitValue_perm (h.issues.map Issue.kind)]

/-- The record of a unit with its findings in another order. -/
theorem sameNumbers (h : u.Rearranged v) : (u.scored weights).SameNumbers (v.scored weights) where
  unitId := h.unitId
  unitName := h.unitName
  issues := h.issues
  linesOfCode := h.linesOfCode
  complexityScore := h.complexity
  qualityScore := h.qualityScore.symm
  hasCriticalIssue := h.isCritical.symm

end UnitSample.Rearranged

/-! ## Groups -/

/-- The units of a group in another order, with their findings in another order. -/
def GroupSample.Rearranged (g h : GroupSample) : Prop :=
  ∃ units, List.Forall₂ UnitSample.Rearranged g.units units ∧ units.Perm h.units

/-- Records of a group that differ in nothing but names and the order of what they list. -/
structure GroupRecord.SameNumbers (r s : GroupRecord Rat) : Prop where
  totalIssues : s.totalIssues = r.totalIssues
  unitsWithIssues : s.unitsWithIssues = r.unitsWithIssues
  unitsWithCriticalIssues : s.unitsWithCriticalIssues = r.unitsWithCriticalIssues
  totalUnits : s.totalUnits = r.totalUnits
  qualityScore : s.qualityScore = r.qualityScore
  complexityScore : s.complexityScore = r.complexityScore
  distinctKinds : ∀ kind, kind ∈ s.distinctKinds ↔ kind ∈ r.distinctKinds
  units : ∃ units, List.Forall₂ UnitRecord.SameNumbers r.units units ∧ units.Perm s.units

namespace GroupSample

variable {g h : GroupSample}

theorem distinctKinds_scored (g : GroupSample) :
    (g.scored weights).distinctKinds =
      (firstSeen (g.units.flatMap fun u => u.issues.map Issue.kind)).map fun k =>
        .string k.name := by
  have hlisted : (g.scored weights).distinctKinds =
      (firstSeen (((g.units.map (·.scored weights)).filter fun r => !r.issues.isEmpty).flatMap
        fun r => r.issues.map Issue.kind)).map fun k => .string k.name := by
    rw [scored_eq]
    rfl
  have hnonempty := flatMap_filter_nonempty (fun r : UnitRecord Rat => r.issues.map Issue.kind)
    (g.units.map (·.scored weights))
  simp only [List.isEmpty_map] at hnonempty
  rw [hlisted, hnonempty, List.flatMap_map]
  rfl

/-- The kinds that a record lists are those of the findings in the group. -/
theorem mem_distinctKinds_scored {kind : Json} :
    kind ∈ (g.scored weights).distinctKinds ↔
      ∃ u ∈ g.units, ∃ i ∈ u.issues, Json.string i.kind.name = kind := by
  rw [distinctKinds_scored, List.mem_map]
  simp only [firstSeen, (firstSeen_foldl _).mem_iff, List.mem_flatMap, List.mem_map]
  constructor
  · rintro ⟨k, ⟨u, hu, i, hi, rfl⟩, rfl⟩
    exact ⟨u, hu, i, hi, rfl⟩
  · rintro ⟨u, hu, i, hi, rfl⟩
    exact ⟨i.kind, ⟨u, hu, i, hi, rfl⟩, rfl⟩

/-- What is the same for units with their findings in another order is the same for those of a
group in another order. -/
theorem Rearranged.map_perm {β : Type} {f : UnitSample Rat → β} (hgh : g.Rearranged h)
    (hf : ∀ u v, u.Rearranged v → f u = f v) : (g.units.map f).Perm (h.units.map f) := by
  obtain ⟨units, heach, hperm⟩ := hgh
  have hmap : g.units.map f = units.map f := by
    have hlists := List.forall₂_map_left_iff.mpr (List.forall₂_map_right_iff.mpr (heach.imp hf))
    exact List.forall₂_eq_eq_eq ▸ hlists
  rw [hmap]
  exact hperm.map f

theorem Rearranged.countP_eq {p : UnitSample Rat → Bool} (hgh : g.Rearranged h)
    (hp : ∀ u v, u.Rearranged v → p u = p v) : g.units.countP p = h.units.countP p := by
  have hperm := (hgh.map_perm hp).countP_eq id
  rwa [List.countP_map, List.countP_map] at hperm

/-- The record of a group after a rearrangement. -/
theorem sameNumbers (hgh : g.Rearranged h) :
    (g.scored weights).SameNumbers (h.scored weights) := by
  have hlength : g.units.length = h.units.length := by
    simpa using (hgh.map_perm (f := fun _ => ()) fun _ _ _ => rfl).length_eq
  have hfaulty : g.faulty = h.faulty := hgh.countP_eq fun _ _ => UnitSample.Rearranged.isFaulty
  have hcritical : g.critical = h.critical :=
    hgh.countP_eq fun _ _ => UnitSample.Rearranged.isCritical
  have hquality : g.meanQuality weights = h.meanQuality weights :=
    meanOf_perm (hgh.map_perm fun _ _ => UnitSample.Rearranged.qualityScore)
  have hcomplexity : g.meanComplexity = h.meanComplexity :=
    meanOf_perm (hgh.map_perm fun _ _ huv => huv.complexity.symm)
  constructor
  case totalIssues =>
    rw [totalIssues_scored, totalIssues_scored]
    exact (hgh.map_perm fun _ _ huv => by rw [huv.length_issues]).sum_eq.symm
  case unitsWithIssues => rw [unitsWithIssues_scored, unitsWithIssues_scored, hfaulty]
  case unitsWithCriticalIssues =>
    rw [unitsWithCriticalIssues_scored, unitsWithCriticalIssues_scored, hcritical]
  case totalUnits => rw [totalUnits_scored, totalUnits_scored, hlength]
  case qualityScore =>
    rw [qualityScore_scored, qualityScore_scored, hquality, hcomplexity, hlength, hfaulty,
      hcritical]
  case complexityScore => rw [complexityScore_scored, complexityScore_scored, hcomplexity]
  case distinctKinds =>
    intro kind
    have hkinds := hgh.map_perm (f := fun u : UnitSample Rat =>
      ∃ i ∈ u.issues, Json.string i.kind.name = kind) fun u v huv => by
        simp only [huv.issues.mem_iff]
    have hmem : ∀ k : GroupSample, kind ∈ (k.scored weights).distinctKinds ↔
        ∃ p ∈ k.units.map fun u => ∃ i ∈ u.issues, Json.string i.kind.name = kind, p := by
      intro k
      rw [mem_distinctKinds_scored]
      simp only [List.mem_map, exists_exists_and_eq_and]
    rw [hmem, hmem]
    simp only [hkinds.mem_iff]
  case units =>
    obtain ⟨units, heach, hperm⟩ := hgh
    rw [units_scored, units_scored]
    refine ⟨units.map (·.scored weights), ?_, hperm.map _⟩
    exact List.forall₂_map_left_iff.mpr (List.forall₂_map_right_iff.mpr
      (heach.imp fun _ _ => UnitSample.Rearranged.sameNumbers))

end GroupSample

/-! ## Systems -/

variable {groups groups' : List (GroupRecord Rat)}

/-- The record of a system in exact arithmetic. -/
def systemScored (groups : List (GroupRecord Rat)) : SystemRecord Rat :=
  (systemRecord groups : Id (SystemRecord Rat)).run

/-- The record of a group without units, in exact arithmetic. -/
def emptyGroup (weights : Weights Rat) (groupId groupName : String) : GroupRecord Rat :=
  (groupRecord weights groupId groupName [] : Id (GroupRecord Rat)).run

/-- A system does not depend on the order of its groups. -/
theorem systemScored_perm (h : groups.Perm groups') :
    systemScored groups = systemScored groups' := by
  have hunits : unitsIn groups = unitsIn groups' := (h.map _).sum_eq
  have hfaulty : faultyIn groups = faultyIn groups' := (h.map _).sum_eq
  have hcritical : criticalIn groups = criticalIn groups' := (h.map _).sum_eq
  have hissues : issuesIn groups = issuesIn groups' := (h.map _).sum_eq
  have hmean : ∀ measure, unitMean groups measure = unitMean groups' measure := by
    intro measure
    rw [unitMean, unitMean, (h.map _).sum_eq, hunits]
  unfold systemScored
  by_cases hzero : unitsIn groups = 0
  · rw [run_systemRecord_of_unitsIn_eq_zero _ hzero,
      run_systemRecord_of_unitsIn_eq_zero _ (hunits ▸ hzero), hfaulty, hcritical, h.length_eq]
  · rw [run_systemRecord _ hzero, run_systemRecord _ (hunits ▸ hzero), hmean, hmean, hunits,
      hfaulty, hcritical, hissues, h.length_eq]

/-- A group without units counts as one group more, and has no other part in a system. -/
theorem systemScored_cons (groupId groupName : String) :
    systemScored (emptyGroup weights groupId groupName :: groups) =
      { systemScored groups with groupCount := (systemScored groups).groupCount + 1 } := by
  let e := emptyGroup weights groupId groupName
  have hcount {field : GroupRecord Rat → Int} (he : field e = 0) :
      ((e :: groups).map field).sum = (groups.map field).sum := by
    rw [List.map_cons, List.sum_cons, he, zero_add]
  have hunits : unitsIn (e :: groups) = unitsIn groups := hcount rfl
  have hfaulty : faultyIn (e :: groups) = faultyIn groups := hcount rfl
  have hcritical : criticalIn (e :: groups) = criticalIn groups := hcount rfl
  have hissues : issuesIn (e :: groups) = issuesIn groups := hcount rfl
  have hmean : ∀ measure, unitMean (e :: groups) measure = unitMean groups measure := by
    intro measure
    have htotal : e.totalUnits = 0 := rfl
    rw [unitMean, unitMean, hunits, List.map_cons, List.sum_cons, htotal, Int.cast_zero, mul_zero,
      zero_add]
  unfold systemScored
  by_cases hzero : unitsIn groups = 0
  · rw [run_systemRecord_of_unitsIn_eq_zero _ hzero,
      run_systemRecord_of_unitsIn_eq_zero _ (hunits.trans hzero), hfaulty, hcritical]
    rfl
  · rw [run_systemRecord _ hzero, run_systemRecord _ (hunits ▸ hzero), hmean, hmean, hunits,
      hfaulty, hcritical, hissues]
    rfl

/-- The same anywhere in the list. -/
theorem systemScored_insert (before after : List (GroupRecord Rat)) (groupId groupName : String) :
    systemScored (before ++ emptyGroup weights groupId groupName :: after) =
      { systemScored (before ++ after) with
        groupCount := (systemScored (before ++ after)).groupCount + 1 } := by
  rw [systemScored_perm List.perm_middle, systemScored_cons]

/-- **Order does not matter.** In exact arithmetic, findings and units in another order give the
record of a group with the same numbers, and groups in another order give the same record of a
system. A group without units only counts as one group more. -/
theorem scores_ignore_order (weights : Weights Rat) :
    (∀ g h : GroupSample, g.Rearranged h →
      (g.scored weights).SameNumbers (h.scored weights)) ∧
    (∀ groups groups' : List (GroupRecord Rat), groups.Perm groups' →
      systemScored groups = systemScored groups') ∧
    ∀ (before after : List (GroupRecord Rat)) (groupId groupName : String),
      systemScored (before ++ emptyGroup weights groupId groupName :: after) =
        { systemScored (before ++ after) with
          groupCount := (systemScored (before ++ after)).groupCount + 1 } :=
  ⟨fun _ _ => GroupSample.sameNumbers, fun _ _ => systemScored_perm, systemScored_insert⟩

/-- A group of a unit with three findings, two of them critical, and a unit without any. -/
def twoUnits : GroupSample where
  units :=
    [{ issues := [IssueKind.debuggerStatement, .todoComment, .emptyReturn].map fun k =>
        .found k "" default none, linesOfCode := 30, complexity := 3 },
      { linesOfCode := 10, complexity := 1 }]

/-- The same group, told from its end. -/
def twoUnitsReversed : GroupSample where
  units := twoUnits.units.reverse.map fun u => { u with issues := u.issues.reverse }

theorem scores_ignore_order_reversed :
    twoUnits.Rearranged twoUnitsReversed ∧
      (twoUnits.scored .standard).SameNumbers (twoUnitsReversed.scored .standard) ∧
      systemScored [twoUnits.scored .standard, emptyGroup .standard "" ""] =
        systemScored [emptyGroup .standard "" "", twoUnits.scored .standard] ∧
      systemScored [emptyGroup .standard "" "", twoUnits.scored .standard] =
        { systemScored [twoUnits.scored .standard] with groupCount := 2 } := by
  obtain ⟨hgroup, hsystem, hinsert⟩ := scores_ignore_order .standard
  have hrearranged : twoUnits.Rearranged twoUnitsReversed := by
    refine ⟨twoUnits.units.map fun u => { u with issues := u.issues.reverse }, ?_, ?_⟩
    · exact List.forall₂_map_right_iff.mpr (List.forall₂_same.mpr fun u _ =>
        ⟨u.issues.reverse_perm.symm, rfl, rfl, rfl, rfl⟩)
    · exact (List.reverse_perm _).symm.map _
  exact ⟨hrearranged, hgroup _ _ hrearranged, hsystem _ _ (List.Perm.swap _ _ _),
    hinsert [] [twoUnits.scored .standard] "" ""⟩

end FlowLint
