import FlowLint.Proofs.ScoreBounds

/-!
# Worse code never scores better

In exact arithmetic, and with weights that are not negative: if every unit of a system has at least
the findings it had, at least as many lines and at least the complexity, then no score of the
second system is higher and none of its counts is lower.

* `UnitSample.Worse`, `GroupSample.Worse`: what it means that code got worse.
* `unitScore_antitone`, `GroupSample.noBetter`, `noBetter_systemOf`: the three levels.
* `scores_worsen`: all of them for two systems.

Each level is an order reversing function of what the level below gives, and every cap that applies
to the better system applies to the worse one too.
-/

namespace FlowLint

variable {weights : Weights Rat}

/-! ## Units -/

/-- A unit got worse: it has all findings it had, and neither lines nor complexity shrank. -/
structure UnitSample.Worse (u v : UnitSample Rat) : Prop where
  issues : (u.issues.map Issue.kind).Subperm (v.issues.map Issue.kind)
  lines : u.linesOfCode ≤ v.linesOfCode
  complexity_nonneg : 0 ≤ u.complexity
  complexity : u.complexity ≤ v.complexity

theorem ceilingFor_antitone {m n : Nat} (h : m ≤ n) : (ceilingFor n : Rat) ≤ ceilingFor m := by
  rw [ceilingFor_rat, ceilingFor_rat]
  grind

/-- More findings take off more. -/
theorem penalties_mono (hw : ∀ kind, 0 ≤ weights kind) {kinds kinds' : List IssueKind}
    (h : kinds.Subperm kinds') :
    (kinds.map weights.penaltyOf).sum ≤ (kinds'.map weights.penaltyOf).sum := by
  obtain ⟨sub, hperm, hsub⟩ := h
  rw [← (hperm.map weights.penaltyOf).sum_eq]
  refine (hsub.map weights.penaltyOf).sum_le_sum fun x hx => ?_
  obtain ⟨kind, -, rfl⟩ := List.mem_map.mp hx
  exact penaltyOf_nonneg hw kind

theorem sizeFactor_mono {lines lines' : Rat} (h : lines ≤ lines') :
    sizeFactor lines ≤ sizeFactor lines' := by
  have hmax : max lines 0 ≤ max lines' 0 := max_le_max_right 0 h
  exact min_le_min_right _ (by linarith)

theorem unitValue_antitone (hw : ∀ kind, 0 ≤ weights kind) {kinds kinds' : List IssueKind}
    {lines lines' : Rat} (hkinds : kinds.Subperm kinds') (hlines : lines ≤ lines') :
    unitValue weights kinds' lines' ≤ unitValue weights kinds lines := by
  have hceiling : (ceilingFor (kinds'.countP IssueKind.isCritical) : Rat) ≤
      ceilingFor (kinds.countP IssueKind.isCritical) := ceilingFor_antitone (hkinds.countP_le _)
  have htaken : (kinds.map weights.penaltyOf).sum * sizeFactor lines ≤
      (kinds'.map weights.penaltyOf).sum * sizeFactor lines' :=
    mul_le_mul (penalties_mono hw hkinds) (sizeFactor_mono hlines) (sizeFactor_nonneg lines)
      (penalties_nonneg hw kinds')
  exact max_le_max_left 0 (by linarith)

theorem unitScore_antitone (hw : ∀ kind, 0 ≤ weights kind) {u v : UnitSample Rat}
    (h : u.Worse v) : (v.scored weights).qualityScore ≤ (u.scored weights).qualityScore := by
  rw [u.qualityScore_scored, v.qualityScore_scored]
  exact hundredths_mono (unitValue_antitone hw h.issues h.lines)

namespace UnitSample.Worse

variable {u v : UnitSample Rat}

theorem length_le (h : u.Worse v) : u.issues.length ≤ v.issues.length := by
  have hlength := h.issues.length_le
  rwa [List.length_map, List.length_map] at hlength

theorem isFaulty (h : u.Worse v) (hu : u.isFaulty = true) : v.isFaulty = true := by
  have hlength := h.length_le
  unfold UnitSample.isFaulty at *
  cases hissues : v.issues with
  | nil =>
    rw [hissues, List.length_nil, Nat.le_zero, List.length_eq_zero_iff] at hlength
    rw [hlength] at hu
    cases hu
  | cons i is => rfl

theorem isCritical (h : u.Worse v) (hu : u.isCritical = true) : v.isCritical = true := by
  obtain ⟨i, hi, hcritical⟩ := List.any_eq_true.mp hu
  obtain ⟨j, hj, hkind⟩ := List.mem_map.mp (h.issues.subset (List.mem_map_of_mem hi))
  refine List.any_eq_true.mpr ⟨j, hj, ?_⟩
  rwa [hkind]

end UnitSample.Worse

/-! ## Lists in step -/

section

variable {α β : Type} {R : α → β → Prop} {as : List α} {bs : List β}

theorem countP_le_of_forall₂ {p : α → Bool} {q : β → Bool} (h : List.Forall₂ R as bs)
    (hR : ∀ a b, R a b → p a = true → q b = true) : as.countP p ≤ bs.countP q := by
  induction h with
  | nil => exact le_rfl
  | @cons a b as bs hab _ ih =>
    rw [List.countP_cons, List.countP_cons]
    by_cases hp : p a = true
    · rw [if_pos hp, if_pos (hR a b hab hp)]
      omega
    · rw [if_neg hp]
      omega

theorem forall_mem_of_forall₂ {p : α → Prop} (h : List.Forall₂ R as bs)
    (hR : ∀ a b, R a b → p a) : ∀ a ∈ as, p a := by
  induction h with
  | nil => exact fun a ha => absurd ha List.not_mem_nil
  | cons hab _ ih => exact List.forall_mem_cons.mpr ⟨hR _ _ hab, ih⟩

theorem sum_le_of_forall₂ {M : Type} [AddMonoid M] [Preorder M] [AddLeftMono M] [AddRightMono M]
    {f : α → M} {g : β → M} (h : List.Forall₂ R as bs) (hR : ∀ a b, R a b → f a ≤ g b) :
    (as.map f).sum ≤ (bs.map g).sum := by
  refine List.Forall₂.sum_le_sum ?_
  rw [List.forall₂_map_left_iff, List.forall₂_map_right_iff]
  exact h.imp hR

theorem meanOf_le_of_forall₂ {f : α → Rat} {g : β → Rat} (h : List.Forall₂ R as bs)
    (hR : ∀ a b, R a b → f a ≤ g b) : meanOf (as.map f) ≤ meanOf (bs.map g) := by
  rw [meanOf, meanOf, List.length_map, List.length_map, h.length_eq]
  exact div_le_div_of_nonneg_right (sum_le_of_forall₂ h hR) (Nat.cast_nonneg _)

end

/-! ## Groups -/

/-- A group got worse: it has as many units, and each of them got worse. -/
def GroupSample.Worse (g h : GroupSample) : Prop :=
  List.Forall₂ UnitSample.Worse g.units h.units

/-- The second record has no higher score than the first and no lower count. -/
structure GroupRecord.NoBetter (r s : GroupRecord Rat) : Prop where
  units : List.Forall₂ (fun a b => b.qualityScore ≤ a.qualityScore) r.units s.units
  quality : s.qualityScore ≤ r.qualityScore
  complexity : r.complexityScore ≤ s.complexityScore
  totalUnits : r.totalUnits = s.totalUnits
  totalIssues : r.totalIssues ≤ s.totalIssues
  unitsWithIssues : r.unitsWithIssues ≤ s.unitsWithIssues
  unitsWithCriticalIssues : r.unitsWithCriticalIssues ≤ s.unitsWithCriticalIssues

/-- What complexity takes off a group starts when a unit is faulty, and never shrinks. -/
theorem complexityPenalty_mono {complexity complexity' : Rat} {faulty faulty' : Nat}
    (hpos : 0 ≤ complexity) (hcomplexity : complexity ≤ complexity') (hfaulty : faulty ≤ faulty') :
    (if faulty = 0 then 0 else min (complexity / (3 / 2)) 40) ≤
      if faulty' = 0 then 0 else min (complexity' / (3 / 2)) 40 := by
  by_cases hzero : faulty = 0
  · rw [if_pos hzero]
    split
    · exact le_rfl
    · exact le_min (div_nonneg (hpos.trans hcomplexity) (by norm_num)) (by norm_num)
  · have hzero' : faulty' ≠ 0 := by omega
    rw [if_neg hzero, if_neg hzero']
    exact min_le_min_right 40 (div_le_div_of_nonneg_right hcomplexity (by norm_num))

theorem share_mono {part part' : Nat} (h : part ≤ part') (total : Nat) :
    (part : Rat) / total ≤ part' / total :=
  div_le_div_of_nonneg_right (Nat.cast_le.mpr h) (Nat.cast_nonneg _)

theorem uncappedGroup_antitone {mean mean' complexity complexity' : Rat}
    {faulty faulty' critical critical' : Nat} (total : Nat) (hmean : mean' ≤ mean)
    (hpos : 0 ≤ complexity) (hcomplexity : complexity ≤ complexity') (hfaulty : faulty ≤ faulty')
    (hcritical : critical ≤ critical') :
    uncappedGroup mean' complexity' total faulty' critical' ≤
      uncappedGroup mean complexity total faulty critical := by
  unfold uncappedGroup
  split
  · exact le_rfl
  · have hcriticalShare := share_mono hcritical total
    have hfaultyShare := share_mono hfaulty total
    have hpenalty := complexityPenalty_mono hpos hcomplexity hfaulty
    linarith

theorem cappedGroup_antitone {score score' : Rat} {faulty faulty' critical critical' : Nat}
    (total : Nat) (hscore : score' ≤ score) (hfaulty : faulty ≤ faulty')
    (hcritical : critical ≤ critical') :
    cappedGroup score' total faulty' critical' ≤ cappedGroup score total faulty critical := by
  refine capIf_mono (fun h => ?_) (capIf_mono (fun h => ?_) hscore)
  · omega
  · omega

section

variable {g h : GroupSample}

theorem meanComplexity_nonneg (hworse : g.Worse h) : 0 ≤ g.meanComplexity := by
  refine meanOf_nonneg fun x hx => ?_
  obtain ⟨u, hu, rfl⟩ := List.mem_map.mp hx
  exact forall_mem_of_forall₂ hworse (fun _ _ => (·.complexity_nonneg)) u hu

theorem groupScore_antitone (hw : ∀ kind, 0 ≤ weights kind) (hworse : g.Worse h) :
    (h.scored weights).qualityScore ≤ (g.scored weights).qualityScore := by
  have hlength : g.units.length = h.units.length := hworse.length_eq
  have hfaulty : g.faulty ≤ h.faulty := countP_le_of_forall₂ hworse fun _ _ => (·.isFaulty)
  have hcritical : g.critical ≤ h.critical := countP_le_of_forall₂ hworse fun _ _ => (·.isCritical)
  have hquality : h.meanQuality weights ≤ g.meanQuality weights :=
    meanOf_le_of_forall₂ hworse.flip fun _ _ huv => unitScore_antitone hw huv
  have hcomplexity : g.meanComplexity ≤ h.meanComplexity :=
    meanOf_le_of_forall₂ hworse fun _ _ => (·.complexity)
  rw [g.qualityScore_scored, h.qualityScore_scored, ← hlength]
  refine max_le_max_left 0 (hundredths_mono (cappedGroup_antitone _ ?_ hfaulty hcritical))
  exact uncappedGroup_antitone _ hquality (meanComplexity_nonneg hworse) hcomplexity hfaulty
    hcritical

theorem GroupSample.noBetter (hw : ∀ kind, 0 ≤ weights kind) (hworse : g.Worse h) :
    (g.scored weights).NoBetter (h.scored weights) where
  units := by
    rw [g.units_scored, h.units_scored, List.forall₂_map_left_iff, List.forall₂_map_right_iff]
    exact hworse.imp fun _ _ => unitScore_antitone hw
  quality := groupScore_antitone hw hworse
  complexity := by
    rw [g.complexityScore_scored, h.complexityScore_scored]
    exact hundredths_mono (meanOf_le_of_forall₂ hworse fun _ _ => (·.complexity))
  totalUnits := by
    rw [g.totalUnits_scored, h.totalUnits_scored, hworse.length_eq]
  totalIssues := by
    rw [g.totalIssues_scored, h.totalIssues_scored]
    exact sum_le_of_forall₂ hworse fun _ _ huv => Int.ofNat_le.mpr huv.length_le
  unitsWithIssues := by
    rw [g.unitsWithIssues_scored, h.unitsWithIssues_scored]
    exact Int.ofNat_le.mpr (countP_le_of_forall₂ hworse fun _ _ => (·.isFaulty))
  unitsWithCriticalIssues := by
    rw [g.unitsWithCriticalIssues_scored, h.unitsWithCriticalIssues_scored]
    exact Int.ofNat_le.mpr (countP_le_of_forall₂ hworse fun _ _ => (·.isCritical))

end

/-! ## Systems -/

/-- The second record has no higher quality than the first, and no lower debt, complexity or
count. -/
structure SystemRecord.NoBetter (r s : SystemRecord Rat) : Prop where
  quality : s.overallQuality ≤ r.overallQuality
  debt : r.technicalDebt ≤ s.technicalDebt
  complexity : r.complexity ≤ s.complexity
  affectedUnits : r.affectedUnits ≤ s.affectedUnits
  criticalUnits : r.criticalUnits ≤ s.criticalUnits

theorem systemValue_antitone {mean mean' : Rat} {faulty faulty' critical critical' : Nat}
    (total : Nat) (hmean : mean' ≤ mean) (hfaulty : faulty ≤ faulty')
    (hcritical : critical ≤ critical') :
    systemValue mean' total faulty' critical' ≤ systemValue mean total faulty critical := by
  have hcriticalShare := share_mono hcritical total
  have hfaultyShare := share_mono hfaulty total
  unfold systemValue
  simp only [Int.cast_natCast]
  refine capIf_mono (fun h => ?_) (capIf_mono (fun h => ?_) (by linarith))
  · omega
  · exact ⟨h.1, h.2.trans_le hfaultyShare⟩

theorem debtValue_mono {issues issues' share share' : Rat} (hissues : issues ≤ issues')
    (hshare : share ≤ share') : debtValue issues share ≤ debtValue issues' share' := by
  have hfirst : min (issues * 35) 100 ≤ min (issues' * 35) 100 :=
    min_le_min_right 100 (by linarith)
  exact min_le_min_right 100 (by linarith)

section

variable {groups groups' : List GroupSample}

theorem allUnits_worse (h : List.Forall₂ GroupSample.Worse groups groups') :
    List.Forall₂ UnitSample.Worse (allUnits groups) (allUnits groups') :=
  List.rel_flatMap h fun _ _ => id

/-- Means over the same numbers of units are ordered as the measures are. -/
theorem meanOver_le {measure : GroupRecord Rat → Rat}
    (h : List.Forall₂ (fun g g' => g.units.length = g'.units.length ∧
      measure (g.scored weights) ≤ measure (g'.scored weights)) groups groups') :
    meanOver weights groups measure ≤ meanOver weights groups' measure := by
  have hunits : unitsIn (groups.map (·.scored weights)) =
      unitsIn (groups'.map (·.scored weights)) := by
    rw [unitsIn, unitsIn, List.map_map, List.map_map]
    refine congrArg List.sum ?_
    rw [← List.forall₂_eq_eq_eq, List.forall₂_map_left_iff, List.forall₂_map_right_iff]
    refine h.imp fun g g' hg => ?_
    rw [Function.comp_apply, Function.comp_apply, g.totalUnits_scored, g'.totalUnits_scored, hg.1]
  have hnonneg : (0 : Rat) ≤ unitsIn (groups'.map (·.scored weights)) := by
    rw [unitsIn_scored]
    exact Int.cast_nonneg (Int.natCast_nonneg _)
  unfold meanOver unitMean
  rw [hunits, List.map_map, List.map_map]
  refine div_le_div_of_nonneg_right (sum_le_of_forall₂ h fun g g' hg => ?_) hnonneg
  rw [Function.comp_apply, Function.comp_apply, g.totalUnits_scored, g'.totalUnits_scored, hg.1]
  exact mul_le_mul_of_nonneg_right hg.2 (Int.cast_nonneg (Int.natCast_nonneg _))

theorem noBetter_systemOf (hw : ∀ kind, 0 ≤ weights kind)
    (h : List.Forall₂ GroupSample.Worse groups groups') :
    (systemOf weights groups).NoBetter (systemOf weights groups') := by
  have hunits := allUnits_worse h
  have hfaulty : (allUnits groups).countP UnitSample.isFaulty ≤
      (allUnits groups').countP UnitSample.isFaulty :=
    countP_le_of_forall₂ hunits fun _ _ => (·.isFaulty)
  have hcritical : (allUnits groups).countP UnitSample.isCritical ≤
      (allUnits groups').countP UnitSample.isCritical :=
    countP_le_of_forall₂ hunits fun _ _ => (·.isCritical)
  have hissues : issueTotal (allUnits groups) ≤ issueTotal (allUnits groups') :=
    sum_le_of_forall₂ hunits fun _ _ huv => Int.ofNat_le.mpr huv.length_le
  have hquality : meanOver weights groups' (·.qualityScore) ≤
      meanOver weights groups (·.qualityScore) :=
    meanOver_le (h.flip.imp fun _ _ hg => ⟨hg.length_eq.symm, groupScore_antitone hw hg⟩)
  have hcomplexity : meanOver weights groups (·.complexityScore) ≤
      meanOver weights groups' (·.complexityScore) :=
    meanOver_le (h.imp fun _ _ hg => ⟨hg.length_eq, (GroupSample.noBetter hw hg).complexity⟩)
  by_cases hempty : allUnits groups = []
  · have hempty' : allUnits groups' = [] := by
      rw [hempty] at hunits
      exact List.forall₂_nil_left_iff.mp hunits
    rw [systemOf_eq_of_no_units weights groups hempty,
      systemOf_eq_of_no_units weights groups' hempty']
    exact ⟨le_rfl, le_rfl, le_rfl, le_rfl, le_rfl⟩
  · have hempty' : allUnits groups' ≠ [] := by
      intro hnil
      rw [hnil] at hunits
      exact hempty (List.forall₂_nil_right_iff.mp hunits)
    rw [systemOf_eq weights groups hempty, systemOf_eq weights groups' hempty',
      ← hunits.length_eq]
    refine ⟨?_, ?_, hundredths_mono hcomplexity, Int.ofNat_le.mpr hfaulty,
      Int.ofNat_le.mpr hcritical⟩
    · exact max_le_max_left 0 (hundredths_mono
        (systemValue_antitone _ hquality hfaulty hcritical))
    · have hperUnit : (issueTotal (allUnits groups) : Rat) / (allUnits groups).length ≤
          issueTotal (allUnits groups') / (allUnits groups).length :=
        div_le_div_of_nonneg_right (Int.cast_le.mpr hissues) (Nat.cast_nonneg _)
      exact hundredths_mono (debtValue_mono hperUnit (share_mono hcritical _))

end

/-- **Worse code.** If every unit of a system got worse, then no score of a unit, of a group or of
the system got better, and no count of findings or of faulty units went down. -/
theorem scores_worsen (hw : ∀ kind, 0 ≤ weights kind) {groups groups' : List GroupSample}
    (h : List.Forall₂ GroupSample.Worse groups groups') :
    List.Forall₂ GroupRecord.NoBetter (groups.map (·.scored weights))
        (groups'.map (·.scored weights)) ∧
      (systemOf weights groups).NoBetter (systemOf weights groups') := by
  refine ⟨?_, noBetter_systemOf hw h⟩
  rw [List.forall₂_map_left_iff, List.forall₂_map_right_iff]
  exact h.imp fun _ _ => GroupSample.noBetter hw

/-- A unit with a marker comment, and one without findings. -/
def markedGroup : GroupSample :=
  { units := [
      { issues := [.found .todoComment "" (.ofLines 1 1 1 10) none], linesOfCode := 15,
        complexity := 3 },
      { linesOfCode := 3, complexity := 0 }] }

/-- The same units, the first of which has grown a breakpoint and fifteen lines. -/
def brokenGroup : GroupSample :=
  { units := [
      { issues := [.found .debuggerStatement "" (.ofLines 1 1 1 10) none,
          .found .todoComment "" (.ofLines 2 1 2 10) none], linesOfCode := 30, complexity := 6 },
      { linesOfCode := 3, complexity := 0 }] }

/-- A breakpoint and fifteen more lines cost the unit, and with it the system, all of its score. -/
theorem scores_worsen_breakpoint :
    (∀ kind, 0 ≤ (Weights.standard : Weights Rat) kind) ∧
      List.Forall₂ GroupSample.Worse [markedGroup, { units := [] }]
        [brokenGroup, { units := [] }] ∧
      List.Forall₂ GroupRecord.NoBetter
        ([markedGroup, { units := [] }].map (·.scored Weights.standard))
        ([brokenGroup, { units := [] }].map (·.scored Weights.standard)) ∧
      (systemOf Weights.standard [markedGroup, { units := [] }]).NoBetter
        (systemOf Weights.standard [brokenGroup, { units := [] }]) ∧
      (systemOf Weights.standard [markedGroup, { units := [] }]).overallQuality = 60 ∧
      (systemOf Weights.standard [brokenGroup, { units := [] }]).overallQuality = 0 := by
  have hweights : ∀ kind, 0 ≤ (Weights.standard : Weights Rat) kind := by
    intro kind
    cases kind <;> decide
  have hfirst : List.Forall₂ UnitSample.Worse markedGroup.units brokenGroup.units := by
    refine .cons ⟨by decide, by decide, by decide, by decide⟩
      (.cons ⟨by decide, by decide, by decide, by decide⟩ .nil)
  have hworse : List.Forall₂ GroupSample.Worse [markedGroup, { units := [] }]
      [brokenGroup, { units := [] }] := .cons hfirst (.cons .nil .nil)
  obtain ⟨hgroups, hsystem⟩ := scores_worsen hweights hworse
  exact ⟨hweights, hworse, hgroups, hsystem, by decide +kernel, by decide +kernel⟩

end FlowLint
