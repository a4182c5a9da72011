import FlowLint.Proofs.Findings

/-!
# What directives do to findings

Directives take effect in two places. The rules on runs of lines pass over a run as soon as one of
its lines is covered, and every finding is dropped if the line where it starts is covered. Both
together are one filter on what is reported without directives.

* `le_of_mem_blankRuns` and `increasing_of_mem_segments`: a run ends on or after the line where it
  starts, so that the second test never drops a run that passed the first one.
* `findings_eq_filter`: what the first place does, for all rules at once.
* `detectIn_suppressed`: directives drop the findings that they do not spare, and nothing else.
-/

namespace FlowLint

open Script

/-! ## Runs of lines -/

theorem Run.le_of_mem_extend {number : Nat} {runs : List Run} {r : Run}
    (hruns : ∀ r ∈ runs, r.1 ≤ r.2) (hr : r ∈ Run.extend number runs) : r.1 ≤ r.2 := by
  revert hr
  fun_cases Run.extend number runs
  case case1 =>
    intro hr
    cases List.mem_singleton.mp hr
    exact Nat.le_refl _
  case case2 r' rest hnext =>
    intro hr
    rcases List.mem_cons.mp hr with rfl | hr
    · have hle := hruns r' List.mem_cons_self
      show number ≤ r'.2
      omega
    · exact hruns r (List.mem_cons_of_mem _ hr)
  case case3 r' rest _ =>
    intro hr
    rcases List.mem_cons.mp hr with rfl | hr
    · exact Nat.le_refl _
    · exact hruns r hr

theorem le_of_mem_blankRunsFrom {first : Nat} {lines : List Line} :
    ∀ r ∈ blankRunsFrom first lines, r.1 ≤ r.2 := by
  induction lines generalizing first with
  | nil => exact fun r hr => absurd hr List.not_mem_nil
  | cons line rest ih =>
    intro r hr
    rw [blankRunsFrom] at hr
    split at hr
    · exact Run.le_of_mem_extend ih hr
    · exact ih r hr

/-- A run of blank lines ends on or after the line where it starts. -/
theorem le_of_mem_blankRuns {minLength : Int} {lines : List Line} {r : Run}
    (hr : r ∈ blankRuns minLength lines) : r.1 ≤ r.2 :=
  le_of_mem_blankRunsFrom r (List.mem_filter.mp hr).1

/-- The numbers of a group increase, and none comes before the first line. -/
theorem increasing_of_mem_segments {classify : Line → Membership} {first : Nat}
    {lines : List Line} :
    ∀ seg ∈ segments classify first lines, (∀ n ∈ seg, first ≤ n) ∧ seg.Pairwise (· < ·) := by
  induction lines generalizing first with
  | nil =>
    intro seg hseg
    cases List.mem_singleton.mp hseg
    exact ⟨fun n hn => absurd hn List.not_mem_nil, .nil⟩
  | cons line rest ih =>
    have hlater : ∀ seg ∈ segments classify (first + 1) rest,
        (∀ n ∈ seg, first ≤ n) ∧ seg.Pairwise (· < ·) := by
      intro seg hseg
      obtain ⟨hle, hlt⟩ := ih seg hseg
      exact ⟨fun n hn => Nat.le_of_succ_le (hle n hn), hlt⟩
    intro seg hseg
    rw [segments] at hseg
    cases hs : segments classify (first + 1) rest with
    | nil => rw [hs] at hseg; cases hseg
    | cons s ss =>
      rw [hs] at hseg hlater
      obtain ⟨hle, hlt⟩ := ih s (hs ▸ List.mem_cons_self)
      cases hc : classify line with
      | member =>
        rw [hc] at hseg
        rcases List.mem_cons.mp hseg with rfl | hseg
        · refine ⟨?_, .cons hle hlt⟩
          rintro n (_ | ⟨_, hn⟩)
          · exact Nat.le_refl _
          · exact Nat.le_of_succ_le (hle n hn)
        · exact hlater seg (List.mem_cons_of_mem _ hseg)
      | neutral =>
        rw [hc] at hseg
        exact hlater seg hseg
      | divider =>
        rw [hc] at hseg
        rcases List.mem_cons.mp hseg with rfl | hseg
        · exact ⟨fun n hn => absurd hn List.not_mem_nil, .nil⟩
        · exact hlater seg hseg

/-! ## Spared findings -/

/-- Findings of these kinds stand for a run of lines. -/
def IssueKind.IsRun (kind : IssueKind) : Prop :=
  kind = .blankRun ∨ kind = .commentedOutCode

instance : DecidablePred IssueKind.IsRun := fun kind =>
  inferInstanceAs (Decidable (kind = .blankRun ∨ kind = .commentedOutCode))

namespace Suppression

variable {s : Suppression} {i : Issue}

/-- Directives let a finding stand: of one that stands for a run of lines they cover no line, and
of any other one not the line where it starts. -/
def Spares (s : Suppression) (i : Issue) : Prop :=
  if i.kind.IsRun then ∀ line, i.line ≤ line → line ≤ i.endLine → s.covers line = false
  else s.covers i.line = false

/-- The test that the rules on runs of lines make by themselves, on findings. -/
def passes (s : Suppression) (i : Issue) : Bool :=
  !(i.kind.IsRun && s.touches i.line i.endLine)

theorem mem_linesBetween {first last line : Int} :
    line ∈ linesBetween first last ↔ first ≤ line ∧ line ≤ last := by
  simp only [linesBetween, List.mem_map, List.mem_range]
  constructor
  · rintro ⟨k, hk, rfl⟩
    omega
  · rintro ⟨h, h'⟩
    exact ⟨(line - first).toNat, by omega, by omega⟩

theorem touches_eq_false_iff {first last : Int} :
    s.touches first last = false ↔
      ∀ line, first ≤ line → line ≤ last → s.covers line = false := by
  simp only [touches, List.any_eq_false, mem_linesBetween, and_imp, Bool.not_eq_true]

theorem touches_empty (first last : Int) : touches {} first last = false :=
  touches_eq_false_iff.mpr fun _ _ _ => rfl

theorem spares_iff :
    s.Spares i ↔
      (if i.kind.IsRun then s.touches i.line i.endLine else s.covers i.line) = false := by
  unfold Spares
  split
  · exact touches_eq_false_iff.symm
  · rfl

instance (s : Suppression) : DecidablePred s.Spares := fun _ =>
  decidable_of_iff _ spares_iff.symm

theorem passes_of_not_isRun (h : ¬ i.kind.IsRun) : s.passes i = true := by
  simp [passes, h]

theorem passes_found {kind : IssueKind} (hrun : kind.IsRun) (message : String)
    (first column last endColumn : Int) (variant : Option Placeholder) :
    s.passes (.found kind message (.ofLines first column last endColumn) variant) =
      !s.touches first last := by
  simp [passes, Issue.found, Issue.line, Issue.endLine, SourceRange.ofLines, hrun]

/-- A finding is spared if it gets past both tests. -/
theorem spares_eq (hle : i.kind.IsRun → i.line ≤ i.endLine) :
    decide (s.Spares i) = (s.passes i && !s.covers i.line) := by
  by_cases hrun : i.kind.IsRun
  · simp only [spares_iff, passes, hrun, if_true, decide_true, Bool.true_and]
    cases ht : s.touches i.line i.endLine with
    | true => rfl
    | false =>
      have hstart : s.covers i.line = false :=
        touches_eq_false_iff.mp ht i.line (Int.le_refl _) (hle hrun)
      simp [hstart]
  · simp [spares_iff, passes, hrun]

end Suppression

/-! ## Rules on runs of lines -/

theorem found_map_finding {α : Type} (f : α → Issue) (xs : List α) :
    found (xs.map fun x => .finding (f x)) = xs.map f := by
  rw [found, List.filterMap_map]
  exact congrFun List.filterMap_eq_map xs

/-- Passing over runs of blank lines is the same as dropping the findings on them. -/
theorem found_blankRunRemarks (s : Suppression) (lines : List Line) :
    found (blankRunRemarks s lines) = (found (blankRunRemarks {} lines)).filter s.passes := by
  simp only [blankRunRemarks, found_map_finding, List.filter_map, List.filter_filter,
    Suppression.touches_empty]
  congr 1
  refine List.filter_congr fun r _ => ?_
  have hrun : IssueKind.IsRun .blankRun := .inl rfl
  rw [Function.comp_apply, Suppression.passes_found hrun, Bool.not_false, Bool.and_true]

theorem found_commentedOutRemark (s : Suppression) (lines : List Line) (numbers : List Nat) :
    found (commentedOutRemark s lines numbers) =
      (found (commentedOutRemark {} lines numbers)).filter s.passes := by
  have hrun : IssueKind.IsRun .commentedOutCode := .inr rfl
  unfold commentedOutRemark
  split
  case h_1 first second more =>
    simp only [Suppression.touches_empty, Bool.false_eq_true, if_false]
    split
    case isTrue ht =>
      refine (List.filter_eq_nil_iff.mpr fun i hi => ?_).symm
      cases List.mem_singleton.mp hi
      rw [Suppression.passes_found hrun, ht]
      exact Bool.false_ne_true
    case isFalse ht =>
      refine (List.filter_eq_self.mpr fun i hi => ?_).symm
      cases List.mem_singleton.mp hi
      rw [Suppression.passes_found hrun, eq_false_of_ne_true ht]
      rfl
  case h_2 => rfl

/-- Passing over runs of comment lines is the same as dropping the findings on them. -/
theorem found_commentedOutRemarks (s : Suppression) (marker : String) (lines : List Line) :
    found (commentedOutRemarks s marker lines) =
      (found (commentedOutRemarks {} marker lines)).filter s.passes := by
  simp only [commentedOutRemarks, found, List.filterMap_flatMap, List.filter_flatMap]
  congr 1
  funext numbers
  exact found_commentedOutRemark s lines numbers

/-! ## All rules -/

variable {ctx : Context} {i : Issue}

/-- A context with all directives taken away. -/
abbrev Context.bare (ctx : Context) : Context :=
  { ctx with suppression := {} }

/-- Only two rules report runs of lines. -/
theorem Rule.not_isRun {rule : Rule} {kind : IssueKind} (hkind : kind ∈ rule.kinds)
    (hblank : rule ≠ .blankRun) (hcomment : rule ≠ .commentedOutCode) : ¬ kind.IsRun := by
  rintro (rfl | rfl) <;> cases rule <;> simp [kinds] at hkind hblank hcomment

/-- Every rule finds under directives what it finds without any, apart from runs of lines that
they reach into. -/
theorem found_remarks (rule : Rule) :
    found (rule.remarks ctx) = (found (rule.remarks ctx.bare)).filter ctx.suppression.passes := by
  have hall (hblank : rule ≠ .blankRun) (hcomment : rule ≠ .commentedOutCode) :
      (found (rule.remarks ctx.bare)).filter ctx.suppression.passes =
        found (rule.remarks ctx.bare) := by
    refine List.filter_eq_self.mpr fun i hi => Suppression.passes_of_not_isRun ?_
    exact Rule.not_isRun (Rule.kind_of_remarks (mem_found.mp hi)) hblank hcomment
  cases rule with
  | blankRun => exact found_blankRunRemarks ctx.suppression ctx.lines
  | commentedOutCode => exact found_commentedOutRemarks ctx.suppression _ ctx.lines
  | _ => exact (hall nofun nofun).symm

theorem findings_eq_filter (ctx : Context) :
    findings ctx = (findings ctx.bare).filter ctx.suppression.passes := by
  have hnode : (nodeFindings ctx.profile ctx.program).filter ctx.suppression.passes =
      nodeFindings ctx.profile ctx.program := by
    refine List.filter_eq_self.mpr fun i hi => ?_
    obtain ⟨rule, hrule, v, -, h⟩ := mem_nodeFindings.mp hi
    refine Suppression.passes_of_not_isRun (Rule.not_isRun (Rule.kind_of_inspect h) ?_ ?_)
    · exact fun h => absurd (h ▸ hrule) (by decide)
    · exact fun h => absurd (h ▸ hrule) (by decide)
  have hunit : unitFindings ctx = (unitFindings ctx.bare).filter ctx.suppression.passes := by
    unfold unitFindings
    rw [List.filter_flatMap]
    congr 1
    funext rule
    exact found_remarks rule
  rw [findings, findings, List.filter_append, hnode, hunit]

/-- A finding on a run of comment lines stands from the first to the end of the last of them. -/
theorem range_of_commentedOutRemark {s : Suppression} {lines : List Line} {numbers : List Nat}
    (hlt : numbers.Pairwise (· < ·)) (h : .finding i ∈ commentedOutRemark s lines numbers) :
    ∃ first ∈ numbers, ∃ last ∈ numbers, first < last ∧
      i.range = .ofLines first 1 last (((lines[last - 1]?).getD []).length + 1) := by
  unfold commentedOutRemark at h
  split at h
  case h_2 => cases h
  case h_1 first second more =>
    have hlast : (second :: more).getLast?.getD first ∈ second :: more := by
      rw [List.getLast?_eq_some_getLast (List.cons_ne_nil _ _), Option.getD_some]
      exact List.getLast_mem _
    dsimp only at h
    split at h
    · cases h
    · cases List.mem_singleton.mp h
      exact ⟨first, List.mem_cons_self, _, List.mem_cons_of_mem _ hlast,
        List.rel_of_pairwise_cons hlt hlast, rfl⟩

theorem line_le_endLine_of_commentedOut {s : Suppression} {marker : String} {lines : List Line}
    (h : .finding i ∈ commentedOutRemarks s marker lines) : i.line ≤ i.endLine := by
  obtain ⟨numbers, hnumbers, h⟩ := List.mem_flatMap.mp h
  obtain ⟨-, hlt⟩ := increasing_of_mem_segments numbers hnumbers
  obtain ⟨first, -, last, -, hlt, hrange⟩ := range_of_commentedOutRemark hlt h
  rw [Issue.line, Issue.endLine, hrange]
  exact Int.ofNat_le.mpr (Nat.le_of_lt hlt)

/-- A finding that stands for a run of lines was made by one of two rules. -/
theorem remark_of_isRun (hi : i ∈ findings ctx) (hrun : i.kind.IsRun) :
    .finding i ∈ blankRunRemarks ctx.suppression ctx.lines ∨
      .finding i ∈ commentedOutRemarks ctx.suppression ctx.profile.directiveMarker ctx.lines := by
  obtain ⟨rule, h⟩ := mem_findings.mp hi
  by_cases hblank : rule = .blankRun
  · subst hblank
    exact .inl h
  by_cases hcomment : rule = .commentedOutCode
  · subst hcomment
    exact .inr h
  exact absurd hrun (Rule.not_isRun (Rule.kind_of_remarks h) hblank hcomment)

/-- A finding that stands for a run of lines ends on or after the line where it starts. -/
theorem line_le_endLine (hi : i ∈ findings ctx) (hrun : i.kind.IsRun) : i.line ≤ i.endLine := by
  rcases remark_of_isRun hi hrun with h | h
  · obtain ⟨r, hr, he⟩ := List.mem_map.mp h
    cases he
    exact Int.ofNat_le.mpr (le_of_mem_blankRuns (List.mem_filter.mp hr).1)
  · exact line_le_endLine_of_commentedOut h

/-- **Directives.** They drop the findings that they do not spare and leave the others as they
are, each in its place. -/
theorem detectIn_suppressed (ctx : Context) :
    detectIn ctx =
      (detectIn { ctx with suppression := {} }).filter (ctx.suppression.Spares ·) := by
  rw [detectIn_eq, detectIn_eq, findings_eq_filter, List.filter_filter, List.filter_filter]
  refine List.filter_congr fun i hi => ?_
  rw [Suppression.spares_eq (line_le_endLine hi)]
  have hcovers : Suppression.covers {} i.line = false := rfl
  simp only [Context.reports, hcovers, Bool.not_false, Bool.and_true]
  rw [Bool.and_assoc, Bool.and_comm, Bool.and_comm (!_)]

end FlowLint
