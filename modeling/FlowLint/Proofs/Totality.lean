import FlowLint.Proofs.Lines
import FlowLint.Proofs.Magnitude
import FlowLint.Quality.Grade
import FlowLint.Scan

/-!
# Every sample has a score

A score is calculated in integers and doubles, where an operation may fail. With samples that fit
into memory, no operation does: the complexity of a text, the scores of units, groups and systems
and the report on a group are all there.

* `memoryLimit` bounds the length of a text and of a list.
* `Complexity.gives_ofSource`, `gives_unitRecord`, `gives_groupRecord`, `gives_groupReport`,
  `gives_systemRecord`: each of these succeeds, with records that are `Sized` for the next one.
-/

namespace FlowLint

open Number

/-- A text has fewer characters, and a list fewer items, than this. -/
def memoryLimit : Nat :=
  2 ^ 63

/-! ## Complexity -/

namespace Complexity

theorem countStarts_le (starts : Bool → List Char → Bool) (inWord : Bool) (cs : List Char) :
    countStarts starts inWord cs ≤ cs.length := by
  induction cs generalizing inWord with
  | nil => exact Nat.le_refl 0
  | cons c cs ih =>
    rw [countStarts, List.length_cons]
    have := ih (isWordChar c)
    split <;> omega

theorem logicalOperators_le (cs : List Char) : logicalOperators cs ≤ cs.length := by
  fun_induction logicalOperators cs with
  | case1 cs ih => simp only [List.length_cons]; omega
  | case2 cs ih => simp only [List.length_cons]; omega
  | case3 c cs _ _ ih => simp only [List.length_cons]; omega
  | case4 => exact Nat.le_refl 0

/-- Braces nest no deeper than there are characters. -/
theorem deepestFrom_bounds {d n : Int} (cs : List Char) (hn : n ≤ d) :
    d ≤ deepestFrom d n cs ∧ deepestFrom d n cs ≤ d + cs.length := by
  induction cs generalizing d n with
  | nil =>
    rw [deepestFrom, List.length_nil]
    omega
  | cons c cs ih =>
    rw [deepestFrom, List.length_cons]
    split
    · have h := ih (d := max d (n + 1)) (n := n + 1) (by omega)
      push_cast
      omega
    · split
      · have h := ih (d := d) (n := n - 1) (by omega)
        push_cast
        omega
      · have h := ih hn
        push_cast
        omega

/-- Every count is at most the length of the text and one more. -/
theorem branchings_le (cs : List Char) : ∀ n ∈ branchings cs, n ≤ cs.length + 1 := by
  have hlines := length_splitLines_le cs
  have hconditionals := (List.countP_le_length (p := holdsConditional) (l := splitLines cs))
  intro n hn
  rcases List.mem_append.mp hn with hn | hn
  · obtain ⟨word, -, rfl⟩ := List.mem_map.mp hn
    exact (countStarts_le _ _ cs).trans (Nat.le_succ _)
  · simp only [List.mem_cons, List.not_mem_nil, or_false] at hn
    rcases hn with rfl | rfl | rfl
    · exact (countStarts_le _ _ cs).trans (Nat.le_succ _)
    · exact (logicalOperators_le cs).trans (Nat.le_succ _)
    · omega

/-- A count that is added with its factor does not lift the total past its bound. -/
theorem gives_addFactor {factor : Rat} {total : Number} {count : Int} (hfactor : |factor| ≤ 2)
    (htotal : total.FloatWithin 119) (hcount : |count| ≤ 2 ^ 64) :
    Gives (addFactor factor total count : Except Fault Number) (FloatWithin 119) := by
  unfold addFactor
  have hdecimal : (decimal factor : Number).Within 1 :=
    (floatWithin_decimal (by omega) (by simpa using hfactor)).within
  apply Gives.bind (gives_times (within_whole hcount) hdecimal (by omega))
  intro part hpart
  exact gives_plus_absorb (k := 65) htotal hpart (by omega)

/-- A text has a complexity. -/
theorem gives_ofText {cs : List Char} (hlength : cs.length < memoryLimit) :
    Gives (ofText cs : Except Fault Number) (FloatWithin 128) := by
  unfold memoryLimit at hlength
  have hlines := length_splitLines_le cs
  have hcode : codeLines cs ≤ (splitLines cs).length := List.countP_le_length
  have hfunctions : namedFunctions cs ≤ cs.length := countStarts_le _ _ cs
  obtain ⟨hnonneg, hdeepest⟩ := deepestFrom_bounds cs (Int.le_refl 0)
  have hbranchings := branchings_le cs
  unfold ofText
  have hfirst : Gives (times (whole (codeLines cs)) (decimal (1 / 10)) : Except Fault Number)
      (FloatWithin 65) := by
    apply gives_times_of_float (j := 64) (k := 1) (within_whole _)
    · exact floatWithin_decimal (by omega) (by norm_num [abs_of_pos])
    · omega
    · rw [abs_of_nonneg (by omega)]
      omega
  apply Gives.bind (hfirst.mono fun _ h => h.mono (k := 119) (by omega))
  intro total htotal
  apply Gives.bind (Q := FloatWithin 119)
  · apply Gives.forIn _ htotal
    intro total htotal count hcount
    apply Gives.bind (gives_addFactor (by norm_num) htotal _)
    · intro total htotal
      exact Gives.pure ⟨total, rfl, htotal⟩
    · have := hbranchings count hcount
      rw [abs_of_nonneg (by omega)]
      omega
  intro total htotal
  apply Gives.bind (gives_addFactor (by norm_num) htotal _)
  · intro total htotal
    apply Gives.bind (gives_addFactor (by norm_num) htotal _)
    · intro total htotal
      exact gives_roundHalfUp (.inr rfl) htotal.within (by omega)
    · rw [abs_of_nonneg (by omega)]
      omega
  · unfold deepest
    rw [abs_of_nonneg hnonneg]
    omega

/-- Any source has a complexity. -/
theorem gives_ofSource {text : String} (hlength : text.length < memoryLimit) :
    Gives (ofSource (.string text) : Except Fault Number) (FloatWithin 128) := by
  unfold ofSource
  dsimp only
  split
  · exact Gives.pure (floatWithin_decimal (by omega) (by simp))
  · exact gives_ofText (by rwa [String.length_toList])

end Complexity

/-! ## Units -/

/-- The weights are numbers of a moderate size. -/
def Weights.Moderate (weights : Weights Number) : Prop :=
  ∀ kind, (weights kind).Within 512

theorem Weights.moderate_standard : Weights.Moderate (Weights.standard : Weights Number) := by
  intro kind
  have hsmall : (Weights.standard kind : Number).Within 6 := by
    cases kind <;> exact ⟨_, rfl, by decide⟩
  exact hsmall.mono (by omega)

/-- The sample of a unit fits into memory. -/
structure UnitSample.Sized (s : UnitSample Number) : Prop where
  issues : s.issues.length < memoryLimit
  lines : s.linesOfCode.Within 64
  complexity : s.complexity.FloatWithin 128

/-- The record of a unit fits into memory. -/
structure UnitRecord.Sized (r : UnitRecord Number) : Prop where
  issues : r.issues.length < memoryLimit
  complexity : r.complexityScore.FloatWithin 128
  quality : r.qualityScore.FloatWithin 642

variable {weights : Weights Number}

theorem gives_penalty (hweights : weights.Moderate) (kind : IssueKind) :
    Gives (penalty weights kind : Except Fault Number) (Within 513) := by
  have hfactor : (decimal (3 / 2) : Number).Within 1 :=
    (floatWithin_decimal (by omega) (by norm_num [abs_of_pos])).within
  unfold penalty
  split
  · exact gives_times (j := 512) (k := 1) (hweights kind) hfactor (by omega)
  · exact Gives.pure ((hweights kind).mono (by omega))

/-- However many findings there are, what they take off is bounded. -/
theorem gives_deduction (hweights : weights.Moderate) (kinds : List IssueKind) :
    Gives (deduction weights kinds : Except Fault Number) (FloatWithin 567) := by
  unfold deduction
  apply Gives.foldlM
  · intro total htotal kind _
    apply Gives.bind (gives_penalty hweights kind)
    intro taken htaken
    exact gives_plus_absorb htotal htaken (by omega)
  · exact floatWithin_decimal (by omega) (by simp)

theorem within_ceilingFor (critical : Nat) : (ceilingFor critical : Number).Within 7 := by
  have hfull : (decimal 100 : Number).Within 7 :=
    (floatWithin_decimal (by omega) (by norm_num [abs_of_pos])).within
  have hcap {n : Int} (h : |n| ≤ 2 ^ 7) : (whole n : Number).Within 7 := within_whole h
  have hfirst : (if 0 < critical then smaller (decimal 100) (whole 40) else decimal 100 :
      Number).Within 7 := by
    split
    · exact hfull.smaller (hcap (by decide))
    · exact hfull
  unfold ceilingFor
  dsimp only
  split
  · exact hfirst.smaller (hcap (by decide))
  · exact hfirst

theorem gives_sizeMultiplier {lines : Number} (hlines : lines.Within 64) :
    Gives (sizeMultiplier lines : Except Fault Number) (Within 65) := by
  have hzero : (whole 0 : Number).Within 64 := within_whole (by simp)
  have hone : (whole 1 : Number).Within 64 := within_whole (by norm_num)
  have hmost : (decimal (5 / 2) : Number).Within 65 :=
    (floatWithin_decimal (k := 2) (by omega) (by norm_num [abs_of_pos])).within.mono (by omega)
  have hscale : (whole 150 : Number).Divisor 8 := divisor_whole (by decide) (by decide)
  unfold sizeMultiplier
  apply Gives.bind (gives_dividedBy (hlines.larger hzero) hscale (by omega) (by omega))
  intro share hshare
  apply Gives.bind (gives_plus hone hshare.within (by omega))
  intro multiplier hmultiplier
  exact Gives.pure (hmultiplier.smaller hmost)

/-- A unit whose size has a multiplier has a score. -/
theorem gives_unitScore_of_multiplier (hweights : weights.Moderate) (kinds : List IssueKind)
    {lines : Number}
    (hmultiplier : Gives (sizeMultiplier lines : Except Fault Number) (Within 65)) :
    Gives (unitScore weights kinds lines : Except Fault Number) (FloatWithin 642) := by
  have hzero : (decimal 0 : Number).Within 633 :=
    (floatWithin_decimal (by omega) (by simp)).within
  unfold unitScore
  apply Gives.bind (gives_deduction hweights kinds)
  intro base hbase
  apply Gives.bind hmultiplier
  intro multiplier hmultiplier
  apply Gives.bind (gives_times hbase.within hmultiplier (by omega))
  intro taken htaken
  apply Gives.bind (gives_minus ((within_ceilingFor _).mono (by omega)) htaken (by omega))
  intro left hleft
  exact gives_roundHalfUp (.inr rfl) (hzero.larger hleft) (by omega)

theorem gives_unitScore (hweights : weights.Moderate) (kinds : List IssueKind) {lines : Number}
    (hlines : lines.Within 64) :
    Gives (unitScore weights kinds lines : Except Fault Number) (FloatWithin 642) :=
  gives_unitScore_of_multiplier hweights kinds (gives_sizeMultiplier hlines)

/-- Every sample of a unit has a record. -/
theorem gives_unitRecord (hweights : weights.Moderate) {s : UnitSample Number} (hs : s.Sized) :
    Gives (unitRecord weights s : Except Fault (UnitRecord Number)) fun r =>
      r.Sized ∧ r.unitId = s.unitId ∧ r.unitName = s.unitName ∧ r.issues = s.issues := by
  unfold unitRecord
  apply Gives.bind (gives_unitScore hweights _ hs.lines)
  intro score hscore
  exact Gives.pure ⟨⟨hs.issues, hs.complexity, hscore⟩, rfl, rfl, rfl⟩

/-! ## Groups -/

/-- The record of a group fits into memory. -/
structure GroupRecord.Sized (r : GroupRecord Number) : Prop where
  quality : r.qualityScore.FloatWithin 709
  complexity : r.complexityScore.FloatWithin 203
  totalUnits : 0 ≤ r.totalUnits ∧ r.totalUnits ≤ 2 ^ 63
  unitsWithIssues : 0 ≤ r.unitsWithIssues ∧ r.unitsWithIssues ≤ 2 ^ 63
  unitsWithCriticalIssues : 0 ≤ r.unitsWithCriticalIssues ∧ r.unitsWithCriticalIssues ≤ 2 ^ 63
  totalIssues : 0 ≤ r.totalIssues ∧ r.totalIssues ≤ 2 ^ 126
  distinctKinds : distinguishable r.distinctKinds = true

theorem sumOfCounts_bounds {counts : List Int} {bound : Int}
    (h : ∀ n ∈ counts, 0 ≤ n ∧ n ≤ bound) :
    0 ≤ sumOfCounts counts ∧ sumOfCounts counts ≤ counts.length * bound := by
  induction counts with
  | nil => simp [sumOfCounts]
  | cons n counts ih =>
    obtain ⟨hn, hrest⟩ := List.forall_mem_cons.mp h
    obtain ⟨hlow, hhigh⟩ := ih hrest
    have hsum : sumOfCounts (n :: counts) = n + sumOfCounts counts := rfl
    rw [hsum, List.length_cons, Nat.cast_succ, add_mul, one_mul]
    omega

/-- A sum of as many counts as a list can have. -/
theorem sumOfCounts_le {ι : Type} {xs : List ι} {count : ι → Int} {k : Nat}
    (hlength : xs.length < memoryLimit) (h : ∀ x ∈ xs, 0 ≤ count x ∧ count x ≤ 2 ^ k) :
    0 ≤ sumOfCounts (xs.map count) ∧ sumOfCounts (xs.map count) ≤ 2 ^ (63 + k) := by
  have hcounts : ∀ n ∈ xs.map count, 0 ≤ n ∧ n ≤ 2 ^ k := by
    intro n hn
    obtain ⟨x, hx, rfl⟩ := List.mem_map.mp hn
    exact h x hx
  obtain ⟨hlow, hhigh⟩ := sumOfCounts_bounds hcounts
  rw [List.length_map] at hhigh
  have hle : (xs.length : Int) ≤ 2 ^ 63 := by
    unfold memoryLimit at hlength
    omega
  refine ⟨hlow, hhigh.trans ?_⟩
  rw [pow_add]
  exact mul_le_mul_of_nonneg_right hle (by positivity)

variable {part total factor bound : Int} {j k : Nat}

theorem gives_shareTimes (hpart : |part| ≤ 2 ^ j) (htotal : 1 ≤ total ∧ total ≤ 2 ^ 126)
    (hfactor : |factor| ≤ 2 ^ k) (hk : j + k < 1024) :
    Gives (shareTimes part total factor : Except Fault Number) (Within (j + k)) := by
  unfold shareTimes
  apply Gives.bind (gives_dividedBy (within_whole hpart) (divisor_whole htotal.1 htotal.2)
    (by omega) (by omega))
  intro share hshare
  exact gives_times hshare.within (within_whole hfactor) hk

theorem gives_exceeds {bound : Rat} (hpart : |part| ≤ 2 ^ 126)
    (htotal : 0 ≤ total ∧ total ≤ 2 ^ 126) :
    Gives (exceeds (Except Fault) Number part total bound) fun _ => True := by
  unfold exceeds
  split
  · exact Gives.pure trivial
  · apply Gives.bind (gives_dividedBy (within_whole hpart)
      (divisor_whole (by omega) htotal.2) (by omega) (by omega))
    intro share _
    exact Gives.pure trivial

theorem within_decimal_hundred {k : Nat} (h : 7 ≤ k) : (decimal 100 : Number).Within k :=
  (floatWithin_decimal (k := 7) (by omega) (by norm_num [abs_of_pos])).within.mono h

/-- The mean of the scores of units, less what faulty and critical units take off, is bounded. What
holds of the means of a group depends on the mean complexity alone. -/
theorem gives_groupMeans_of {records : List (UnitRecord Number)} {faulty critical : Nat}
    {P Q : Number → Prop} (hlength : records.length < memoryLimit)
    (hquality : ∀ r ∈ records, r.qualityScore.FloatWithin 642)
    (hfaulty : faulty ≤ records.length) (hcritical : critical ≤ records.length)
    (hzero : P (decimal 0)) (hbounded : ∀ x : Number, x.Within 699 → Q x)
    (hmean : records ≠ [] → Gives (do
      dividedBy (← sumOf (records.map (·.complexityScore))) (whole records.length) :
        Except Fault Number) P)
    (hless : ∀ x complexity : Number, x.Within 699 → P complexity → Gives (do
      minus x (smaller (← dividedBy complexity (decimal (3 / 2))) (whole 40)) :
        Except Fault Number) Q) :
    Gives (groupMeans records faulty critical : Except Fault (Number × Number)) fun means =>
      Q means.1 ∧ P means.2 := by
  unfold memoryLimit at hlength
  unfold groupMeans
  split
  · exact Gives.pure ⟨hbounded _ (within_decimal_hundred (by omega)), hzero⟩
  · rename_i hempty
    have hne : records ≠ [] := fun h => hempty (List.isEmpty_iff.mpr h)
    have hpos : 0 < records.length := List.length_pos_iff.mpr hne
    have htotal : (whole (records.length : Int) : Number).Divisor 63 :=
      divisor_whole (by omega) (by omega)
    have hqualities : ∀ x ∈ records.map (·.qualityScore), x.FloatWithin 642 := by
      intro x hx
      obtain ⟨r, hr, rfl⟩ := List.mem_map.mp hx
      exact hquality r hr
    dsimp only
    rw [← bind_assoc]
    apply Gives.bind (hmean hne)
    intro complexity hcomplexity
    apply Gives.bind (gives_sumOf hqualities (by omega))
    intro sum hsum
    apply Gives.bind (gives_dividedBy hsum htotal (by omega) (by omega))
    intro mean hmean
    apply Gives.bind (gives_shareTimes (j := 63) (k := 6) (by rw [abs_of_nonneg] <;> omega)
      ⟨by omega, by omega⟩ (by decide) (by omega))
    intro share hshare
    apply Gives.bind (gives_minus hmean.within (hshare.mono (by omega)) (by omega))
    intro lessCritical hlessCritical
    apply Gives.bind (gives_shareTimes (j := 63) (k := 5) (by rw [abs_of_nonneg] <;> omega)
      ⟨by omega, by omega⟩ (by decide) (by omega))
    intro share hshare
    apply Gives.bind (gives_minus hlessCritical (hshare.mono (by omega)) (by omega))
    intro lessFaulty hlessFaulty
    have hlessFaulty : lessFaulty.Within 699 := hlessFaulty.mono (by omega)
    split
    · exact Gives.pure ⟨hbounded _ hlessFaulty, hcomplexity⟩
    · rw [← bind_assoc]
      apply Gives.bind (hless _ _ hlessFaulty hcomplexity)
      intro lessComplex hlessComplex
      exact Gives.pure ⟨hlessComplex, hcomplexity⟩

/-- The means of a group from the records of its units. -/
theorem gives_groupMeans {records : List (UnitRecord Number)} {faulty critical : Nat}
    (hlength : records.length < memoryLimit) (hsized : ∀ r ∈ records, r.Sized)
    (hfaulty : faulty ≤ records.length) (hcritical : critical ≤ records.length) :
    Gives (groupMeans records faulty critical : Except Fault (Number × Number)) fun means =>
      means.1.Within 700 ∧ means.2.Within 194 := by
  apply gives_groupMeans_of hlength (fun r hr => (hsized r hr).quality) hfaulty hcritical
  · exact (floatWithin_decimal (by omega) (by simp)).within
  · exact fun x hx => hx.mono (by omega)
  · intro hne
    have hpos : 0 < records.length := List.length_pos_iff.mpr hne
    unfold memoryLimit at hlength
    have hcomplexities : ∀ x ∈ records.map (·.complexityScore), x.FloatWithin 128 := by
      intro x hx
      obtain ⟨r, hr, rfl⟩ := List.mem_map.mp hx
      exact (hsized r hr).complexity
    apply Gives.bind (gives_sumOf hcomplexities (by omega))
    intro sum hsum
    refine (gives_dividedBy hsum (divisor_whole (k := 63) (by omega) (by omega)) (by omega)
      (by omega)).mono fun _ h => h.within.mono (by omega)
  · intro x complexity hx hcomplexity
    have hfactor : (decimal (3 / 2) : Number).Divisor 1 := by
      refine ⟨3 / 2, by decide +kernel, by norm_num, ?_⟩
      rw [show twoPow (1 : Nat) = 2 by decide]
      norm_num
    apply Gives.bind (gives_dividedBy hcomplexity hfactor (by omega) (by omega))
    intro scaled hscaled
    have hmost : (whole 40 : Number).Within 194 :=
      (within_whole (k := 6) (by decide)).mono (by omega)
    exact gives_minus hx ((hscaled.within.smaller hmost).mono (by omega)) (by omega)

theorem distinguishable_names (kinds : List IssueKind) :
    distinguishable (kinds.map fun k => .string k.name) = true := by
  unfold distinguishable
  rw [List.all_map]
  exact List.all_eq_true.mpr fun _ _ => rfl

/-- The records of the units of a group have a record together. -/
theorem gives_groupRecordOf (groupId groupName : String) {records : List (UnitRecord Number)}
    (hlength : records.length < memoryLimit) (hsized : ∀ r ∈ records, r.Sized) :
    Gives (groupRecordOf groupId groupName records : Except Fault (GroupRecord Number)) fun r =>
      r.Sized ∧ r.groupId = groupId ∧ r.groupName = groupName ∧ r.units = records ∧
        r.totalIssues = sumOfCounts (records.map fun u => (u.issueCount : Int)) := by
  have hcounts : ∀ u ∈ records, 0 ≤ (u.issueCount : Int) ∧ (u.issueCount : Int) ≤ 2 ^ 63 := by
    intro u hu
    have := (hsized u hu).issues
    unfold memoryLimit at this
    unfold UnitRecord.issueCount
    omega
  have hissues := sumOfCounts_le hlength hcounts
  unfold groupRecordOf
  dsimp only
  generalize hfaulty : records.filter (fun r => !r.issues.isEmpty) = faulty
  generalize hcritical : faulty.filter (·.hasCriticalIssue) = critical
  have hfaultyLength : faulty.length ≤ records.length := hfaulty ▸ List.length_filter_le ..
  have hcriticalLength : critical.length ≤ faulty.length := hcritical ▸ List.length_filter_le ..
  have hmemory := hlength
  unfold memoryLimit at hmemory
  apply Gives.bind (gives_groupMeans hlength hsized hfaultyLength
    (hcriticalLength.trans hfaultyLength))
  intro ⟨score, complexity⟩ ⟨hscore, hcomplexity⟩
  have hcap {n : Int} (h : |n| ≤ 2 ^ 6) : (whole n : Number).Within 700 :=
    Within.mono (within_whole (k := 6) h) (by omega)
  have hcapped : (if critical.isEmpty then score else smaller score (whole 50)).Within 700 := by
    split
    · exact hscore
    · exact hscore.smaller (hcap (by decide))
  apply Gives.bind (gives_exceeds (by rw [abs_of_nonneg] <;> omega) ⟨by omega, by omega⟩)
  intro mostlyFaulty _
  generalize (if critical.isEmpty then score else smaller score (whole 50)) = capped at hcapped ⊢
  have hfinal : (if mostlyFaulty then smaller capped (whole 30) else capped).Within 700 := by
    split
    · exact hcapped.smaller (hcap (by decide))
    · exact hcapped
  apply Gives.bind (gives_roundHalfUp (.inr rfl) hfinal (by omega))
  intro quality hquality
  apply Gives.bind (gives_roundHalfUp (.inr rfl) hcomplexity (by omega))
  intro rounded hrounded
  have hzero : (decimal 0 : Number).FloatWithin 709 := floatWithin_decimal (by omega) (by simp)
  have hcount {n : Nat} (h : n ≤ records.length) : 0 ≤ (n : Int) ∧ (n : Int) ≤ 2 ^ 63 := by
    omega
  exact Gives.pure
    ⟨{ quality := hzero.larger hquality
       complexity := hrounded
       totalUnits := hcount (Nat.le_refl _)
       unitsWithIssues := hcount hfaultyLength
       unitsWithCriticalIssues := hcount (hcriticalLength.trans hfaultyLength)
       totalIssues := hissues
       distinctKinds := distinguishable_names _ }, rfl, rfl, rfl, rfl⟩

/-- Every group of samples has a record. -/
theorem gives_groupRecord (hweights : weights.Moderate) (groupId groupName : String)
    {samples : List (UnitSample Number)} (hlength : samples.length < memoryLimit)
    (hsized : ∀ s ∈ samples, s.Sized) :
    Gives (groupRecord weights groupId groupName samples : Except Fault (GroupRecord Number))
      fun r => r.Sized ∧ r.groupId = groupId ∧ r.groupName = groupName ∧
        r.totalIssues = sumOfCounts (r.units.map fun u => (u.issueCount : Int)) ∧
        List.Forall₂ (fun s u => u.unitId = s.unitId ∧ u.unitName = s.unitName ∧
          u.issues = s.issues) samples r.units := by
  unfold groupRecord
  apply Gives.bind (Gives.mapM fun s hs => gives_unitRecord hweights (hsized s hs))
  intro records hrecords
  have hmembers : ∀ u ∈ records, u.Sized :=
    forall_mem_of_forall₂_right hrecords fun _ _ h => h.1
  apply Gives.mono (gives_groupRecordOf groupId groupName (hrecords.length_eq ▸ hlength) hmembers)
  rintro r ⟨hr, hid, hname, rfl, hissues⟩
  exact ⟨hr, hid, hname, hissues, hrecords.imp fun _ _ h => h.2⟩

/-- Every record of a group has a report. -/
theorem gives_groupReport {r : GroupRecord Number} (hr : r.Sized) :
    Gives (groupReport r) fun report => report.record = r := by
  have htotal := hr.totalUnits
  have hfaulty := hr.unitsWithIssues
  have hhealth : Gives (healthPercentage r : Except Fault Int) fun _ => True := by
    unfold healthPercentage
    dsimp only
    apply Gives.bind (gives_shareTimes (j := 63) (k := 7) (by rw [abs_le]; omega)
      ⟨by omega, by omega⟩ (by decide) (by omega))
    intro percent hpercent
    apply Gives.bind (gives_roundHalfUp (.inl rfl) hpercent (by omega))
    intro rounded hrounded
    exact (gives_floor hrounded.within).mono fun _ _ => trivial
  have hadvice : Gives (recommendations r : Except Fault (List Recommendation)) fun _ => True := by
    unfold recommendations
    split
    · exact Gives.pure trivial
    · dsimp only
      apply Gives.bind (gives_exceeds (by rw [abs_le]; omega) ⟨by omega, by omega⟩)
      intro many _
      exact Gives.pure trivial
  unfold groupReport
  apply Gives.bind hhealth
  intro health _
  rw [hr.distinctKinds, Bool.not_true, Bool.and_false]
  apply Gives.bind hadvice
  intro advice _
  exact Gives.pure rfl

/-! ## Systems -/

variable {groups : List (GroupRecord Number)}

/-- A mean over groups, of which at least one has a unit. -/
theorem gives_meanByUnits {measure : GroupRecord Number → Number} {k : Nat}
    (hgroups : ∀ g ∈ groups, g.Sized) (hmeasure : ∀ g ∈ groups, (measure g).FloatWithin k)
    (hk : k + 117 < 1024) (htotal : 1 ≤ total ∧ total ≤ 2 ^ 126) :
    Gives (meanByUnits measure total groups : Except Fault Number) (Within (k + 117)) := by
  unfold meanByUnits
  have hparts : Gives (groups.mapM fun g => times (measure g) (whole g.totalUnits) :
      Except Fault (List Number)) (List.Forall₂ (fun _ x => x.FloatWithin (k + 63)) groups) := by
    apply Gives.mapM
    intro g hg
    obtain ⟨hlow, hhigh⟩ := (hgroups g hg).totalUnits
    apply gives_float_times (hmeasure g hg) (within_whole _) (by omega)
    rwa [abs_of_nonneg hlow]
  apply Gives.bind hparts
  intro parts hparts
  have hmembers : ∀ x ∈ parts, x.FloatWithin (k + 63) :=
    forall_mem_of_forall₂_right hparts fun _ _ h => h
  apply Gives.bind (gives_sumOf hmembers (by omega))
  intro sum hsum
  exact (gives_dividedBy hsum (divisor_whole htotal.1 htotal.2) (by omega) (by omega)).mono
    fun _ h => h.within.mono (by omega)

variable {issues affected critical : Int}

theorem gives_overallQuality (hgroups : ∀ g ∈ groups, g.Sized)
    (htotal : 1 ≤ total ∧ total ≤ 2 ^ 126) (haffected : |affected| ≤ 2 ^ 126)
    (hcritical : |critical| ≤ 2 ^ 126) :
    Gives (overallQuality groups total affected critical : Except Fault Number) (Within 827) := by
  have hcap {n : Int} (h : |n| ≤ 2 ^ 7) : (whole n : Number).Within 827 :=
    Within.mono (within_whole (k := 7) h) (by omega)
  unfold overallQuality
  apply Gives.bind
    (gives_meanByUnits hgroups (fun g hg => (hgroups g hg).quality) (by omega) htotal)
  intro mean hmean
  apply Gives.bind (gives_shareTimes (k := 7) hcritical htotal (by decide) (by omega))
  intro share hshare
  apply Gives.bind (gives_minus hmean (hshare.mono (by omega)) (by omega))
  intro less hless
  apply Gives.bind (gives_exceeds haffected ⟨by omega, htotal.2⟩)
  intro widespread _
  have hcapped : (if widespread then smaller less (whole 60) else less).Within 827 := by
    split
    · exact hless.smaller (hcap (by decide))
    · exact hless
  apply Gives.pure
  split
  · exact hcapped
  · exact hcapped.smaller (hcap (by decide))

theorem gives_technicalDebt (htotal : 1 ≤ total ∧ total ≤ 2 ^ 126) (hissues : |issues| ≤ 2 ^ 189)
    (hcritical : |critical| ≤ 2 ^ 126) :
    Gives (technicalDebt issues total critical : Except Fault Number) (Within 196) := by
  have hmost {k : Nat} (h : 7 ≤ k) : (whole 100 : Number).Within k :=
    Within.mono (within_whole (k := 7) (by decide)) h
  unfold technicalDebt
  apply Gives.bind (gives_shareTimes (k := 6) hissues htotal (by decide) (by omega))
  intro byIssues hbyIssues
  apply Gives.bind (gives_shareTimes (k := 6) hcritical htotal (by decide) (by omega))
  intro byCritical hbyCritical
  apply Gives.bind (gives_plus (hbyIssues.smaller (hmost (by omega)))
    (hbyCritical.mono (by omega)) (by omega))
  intro debt hdebt
  exact Gives.pure (hdebt.smaller (hmost (by omega)))

/-- Every system of groups has a record. -/
theorem gives_systemRecord (hlength : groups.length < memoryLimit)
    (hgroups : ∀ g ∈ groups, g.Sized) :
    Gives (systemRecord groups : Except Fault (SystemRecord Number)) fun _ => True := by
  have htotal := sumOfCounts_le hlength fun g hg => (hgroups g hg).totalUnits
  have haffected := sumOfCounts_le hlength fun g hg => (hgroups g hg).unitsWithIssues
  have hcritical := sumOfCounts_le hlength fun g hg => (hgroups g hg).unitsWithCriticalIssues
  have hissues := sumOfCounts_le hlength fun g hg => (hgroups g hg).totalIssues
  unfold systemRecord
  dsimp only
  generalize sumOfCounts (groups.map (·.totalUnits)) = total at htotal ⊢
  generalize sumOfCounts (groups.map (·.unitsWithIssues)) = affected at haffected ⊢
  generalize sumOfCounts (groups.map (·.unitsWithCriticalIssues)) = critical at hcritical ⊢
  generalize sumOfCounts (groups.map (·.totalIssues)) = issues at hissues ⊢
  have hrounded {overall debt complexity : Number} (hoverall : overall.Within 827)
      (hdebt : debt.Within 827) (hcomplexity : complexity.Within 827) : Gives (do
        let quality ← roundHalfUp 2 overall
        let debt ← roundHalfUp 2 debt
        let complexity ← roundHalfUp 2 complexity
        return ({ overallQuality := larger (decimal 0) quality, technicalDebt := debt, complexity,
                  groupCount := groups.length, affectedUnits := affected,
                  criticalUnits := critical } : SystemRecord Number) :
        Except Fault (SystemRecord Number)) fun _ => True := by
    apply Gives.bind (gives_roundHalfUp (.inr rfl) hoverall (by omega))
    intro quality _
    apply Gives.bind (gives_roundHalfUp (.inr rfl) hdebt (by omega))
    intro debt _
    apply Gives.bind (gives_roundHalfUp (.inr rfl) hcomplexity (by omega))
    intro complexity _
    exact Gives.pure trivial
  split
  · have hzero : (decimal 0 : Number).Within 827 :=
      (floatWithin_decimal (by omega) (by simp)).within
    exact hrounded (within_decimal_hundred (by omega)) hzero hzero
  · apply Gives.bind (gives_overallQuality hgroups ⟨by omega, htotal.2⟩
      (by rw [abs_le]; omega) (by rw [abs_le]; omega))
    intro overall hoverall
    apply Gives.bind (gives_technicalDebt ⟨by omega, htotal.2⟩
      (by rw [abs_le]; omega) (by rw [abs_le]; omega))
    intro debt hdebt
    apply Gives.bind (gives_meanByUnits hgroups (fun g hg => (hgroups g hg).complexity) (by omega)
      ⟨by omega, htotal.2⟩)
    intro complexity hcomplexity
    exact hrounded hoverall (hdebt.mono (by omega)) (hcomplexity.mono (by omega))

end FlowLint
