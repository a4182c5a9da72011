import FlowLint.Proofs.Findings
import FlowLint.Proofs.Units

/-!
# One walk for all rules

The rules on nodes share a walk and hand their findings to one list. Every rule can also run
alone, with a walk and a list of its own, whether or not its level is reached.

* `Rule.eq_of_mem_kinds`: no kind is reported by two rules.
* `detectIn_filter_kinds`: what a context reports of the kinds of a rule is what the rule reports
  when it runs alone.
* `Detector.issues_of_detect`: the findings in a text are what its context reports, also for the
  empty text, which is not even read.
* `Detector.detect_rules`: both together, with the order in which the rules follow each other.
-/

namespace FlowLint

open Script

/-! ## Rules that run alone -/

/-- What is left of remarks as findings. -/
def Context.reported (ctx : Context) (remarks : List Remark) : List Issue :=
  (remarks.flatMap ctx.accept).filterMap Event.issue?

theorem Context.reported_eq (ctx : Context) (remarks : List Remark) :
    ctx.reported remarks = (found remarks).filter ctx.reports :=
  issues_of_accept ctx remarks

namespace Rule

/-- The findings of a rule that runs alone. -/
def issues (rule : Rule) (ctx : Context) : List Issue :=
  (rule.check ctx).filterMap Event.issue?

theorem issues_eq (rule : Rule) (ctx : Context) :
    rule.issues ctx = (found (rule.remarks ctx)).filter ctx.reports :=
  issues_of_accept ctx (rule.remarks ctx)

/-- A kind is reported by one rule only. -/
theorem eq_of_mem_kinds {rule rule' : Rule} {kind : IssueKind} (h : kind ∈ rule.kinds)
    (h' : kind ∈ rule'.kinds) : rule = rule' := by
  cases rule <;> cases rule' <;> simp_all [kinds]

/-- Of the findings of several rules, those of the kinds of one rule are the findings that it
made. -/
theorem filter_kinds_flatMap {rules : List Rule} {f : Rule → List Issue} (hnodup : rules.Nodup)
    (hf : ∀ rule, ∀ i ∈ f rule, i.kind ∈ rule.kinds) (rule : Rule) :
    (rules.flatMap f).filter (·.kind ∈ rule.kinds) = if rule ∈ rules then f rule else [] := by
  have hown : (f rule).filter (·.kind ∈ rule.kinds) = f rule :=
    List.filter_eq_self.mpr fun i hi => decide_eq_true (hf rule i hi)
  have hother {r : Rule} (hne : r ≠ rule) : (f r).filter (·.kind ∈ rule.kinds) = [] := by
    refine List.filter_eq_nil_iff.mpr fun i hi hkind => ?_
    exact hne (eq_of_mem_kinds (hf r i hi) (of_decide_eq_true hkind))
  induction rules with
  | nil => rfl
  | cons r rules ih =>
    obtain ⟨hr, hnodup⟩ := List.nodup_cons.mp hnodup
    rw [List.flatMap_cons, List.filter_append, ih hnodup]
    by_cases he : r = rule
    · subst he
      rw [hown, if_neg hr, if_pos List.mem_cons_self, List.append_nil]
    · have hmem : rule ∈ r :: rules ↔ rule ∈ rules := by
        rw [List.mem_cons, or_iff_right (Ne.symm he)]
      simp only [hother he, hmem, List.nil_append]

theorem not_mem_onUnits {rule : Rule} (h : rule ∈ onNodes) : rule ∉ onUnits := by
  revert h
  cases rule <;> decide

end Rule

theorem found_flatMap {α : Type} (f : α → List Remark) (xs : List α) :
    found (xs.flatMap f) = xs.flatMap fun x => found (f x) :=
  List.filterMap_flatMap

/-- What the rules on nodes find of the kinds of a rule. -/
theorem nodeFindings_filter_kinds (ctx : Context) (rule : Rule) :
    (nodeFindings ctx.profile ctx.program).filter (·.kind ∈ rule.kinds) =
      if rule ∈ Rule.onNodes then found (rule.remarks ctx) else [] := by
  have hvisit (v : Visit) :
      (Rule.onNodes.flatMap fun r => found (r.inspect ctx.profile v)).filter
          (·.kind ∈ rule.kinds) =
        if rule ∈ Rule.onNodes then found (rule.inspect ctx.profile v) else [] :=
    Rule.filter_kinds_flatMap (by decide) (fun _ _ hi => Rule.kind_of_inspect (mem_found.mp hi))
      rule
  unfold nodeFindings
  rw [List.filter_flatMap]
  simp only [hvisit]
  split
  case isTrue hrule => rw [Rule.remarks_of_mem_onNodes hrule, found_flatMap]
  case isFalse => exact List.flatMap_eq_nil_iff.mpr fun _ _ => rfl

/-- What the rules on whole units find of the kinds of a rule. -/
theorem unitFindings_filter_kinds (ctx : Context) (rule : Rule) :
    (unitFindings ctx).filter (·.kind ∈ rule.kinds) =
      if rule ∈ Rule.onUnits then found (rule.remarks ctx) else [] :=
  Rule.filter_kinds_flatMap (by decide) (fun _ _ hi => Rule.kind_of_remarks (mem_found.mp hi)) rule

/-- Of the kinds of a rule, a context reports what the rule reports when it runs alone. -/
theorem detectIn_filter_kinds (ctx : Context) (rule : Rule) :
    (detectIn ctx).filter (·.kind ∈ rule.kinds) = rule.issues ctx := by
  have hfound : (findings ctx).filter (·.kind ∈ rule.kinds) = found (rule.remarks ctx) := by
    rw [findings, List.filter_append, nodeFindings_filter_kinds, unitFindings_filter_kinds]
    rcases rule.mem_onNodes_or_onUnits with hrule | hrule
    · rw [if_pos hrule, if_neg (Rule.not_mem_onUnits hrule), List.append_nil]
    · rw [if_pos hrule, if_neg fun h => Rule.not_mem_onUnits h hrule, List.nil_append]
  rw [detectIn_eq, List.filter_comm, hfound, Rule.issues_eq]

/-- A context reports what the rules on nodes say, node by node, and then what each of the other
rules reports. -/
theorem detectIn_eq_append (ctx : Context) :
    detectIn ctx =
      ((preorder ctx.program []).flatMap fun v =>
        Rule.onNodes.flatMap fun rule => ctx.reported (rule.inspect ctx.profile v))
        ++ Rule.onUnits.flatMap (·.issues ctx) := by
  rw [detectIn_eq, findings, List.filter_append, nodeFindings, unitFindings, List.filter_flatMap,
    List.filter_flatMap, walk_eq_preorder]
  simp only [List.filter_flatMap, Context.reported_eq, Rule.issues_eq]

/-! ## Texts -/

/-- Nothing is found in an empty text. -/
theorem findings_empty (profile : HostProfile) (level : Int) (range : SourceRange) :
    findings (contextFor profile level [] (.program [] range)) = [] := by
  have hnode : nodeFindings profile (.program [] range) = [] := by
    rw [nodeFindings, walk, walkStack, Visit.below, Node.children, List.map_nil, List.nil_append,
      walkStack]
    rfl
  have hunused : unusedRemarks profile (.program [] range) = [] := by
    rw [unusedRemarks, unusedBindings, usage, usageAll]
    simp only [Usage.close, List.filter_nil, List.append_nil, List.mergeSort_nil, List.map_nil]
  have hblank (s : Suppression) : blankRunRemarks s (splitLines []) = [] := rfl
  have hcomments (s : Suppression) (marker : String) :
      commentedOutRemarks s marker (splitLines []) = [] := rfl
  have htodo : todoRemarks 1 (splitLines []) = [] := rfl
  have hunit : unitFindings (contextFor profile level [] (.program [] range)) = [] := by
    simp only [unitFindings, Rule.onUnits, List.flatMap_cons, List.flatMap_nil, Rule.remarks,
      contextFor, hunused, hblank, hcomments, htodo]
    rfl
  rw [findings, hunit, List.append_nil]
  exact hnode

namespace Detector

variable (d : Detector)

/-- What is found in a text with a certain tree. A text without a tree has no findings, unless a
literal of it has no value. -/
def issuesOn (level : Int) (text : List Char) :
    Except BuildError ParsedUnit → Except DetectError (List Issue)
  | .ok unit => .ok (detectIn (contextFor d.profile level text unit.program))
  | .error (.literal e) => .error (.literal e)
  | .error _ => .ok []

/-- The findings in a text that is not empty are what its context reports. -/
theorem issues_of_ne_empty {text : String} (ht : text ≠ "") {level : Json} {n : Int}
    (hlevel : clampLevel level = .ok n) :
    (d.detect (.string text) level).map Detection.issues =
      d.issuesOn n text.toList (buildWith d.reader d.profile.wrapperName text.toList) := by
  simp only [detect, if_neg ht, hlevel, detectText]
  rcases buildWith d.reader d.profile.wrapperName text.toList with (e | e | e) | unit <;> rfl

/-- The findings in a text are what its context reports, also for the empty text, which is not even
read. -/
theorem issues_of_detect (hempty : d.reader.ReadsEmpty) (text : String) {level : Json} {n : Int}
    (hlevel : clampLevel level = .ok n) :
    (d.detect (.string text) level).map Detection.issues =
      d.issuesOn n text.toList (buildWith d.reader d.profile.wrapperName text.toList) := by
  by_cases ht : text = ""
  · subst ht
    obtain ⟨range, hbuild⟩ := buildWith_empty hempty d.profile.wrapperName
    have hnone : detectIn (contextFor d.profile n [] (.program [] range)) = [] := by
      rw [detectIn_eq, findings_empty]
      rfl
    rw [String.toList_empty, hbuild]
    exact congrArg Except.ok hnone.symm
  · exact d.issues_of_ne_empty ht hlevel

/-- A finding in a text is reported on the tree of the text. -/
theorem exists_unit_of_mem_issues {text : String} {level : Json} {found : Detection} {i : Issue}
    (hfound : d.detect (.string text) level = .ok found) (hi : i ∈ found.issues) :
    ∃ n unit, buildWith d.reader d.profile.wrapperName text.toList = .ok unit ∧
      i ∈ detectIn (contextFor d.profile n text.toList unit.program) := by
  by_cases ht : text = ""
  · rw [detect, if_pos ht] at hfound
    cases hfound
    cases hi
  cases hlevel : clampLevel level with
  | error e =>
    simp only [detect, if_neg ht, hlevel] at hfound
    cases hfound
  | ok n =>
    have hissues := d.issues_of_ne_empty ht hlevel
    rw [hfound] at hissues
    have hnone (h : found.issues = []) : False := by
      rw [h] at hi
      cases hi
    cases hbuild : buildWith d.reader d.profile.wrapperName text.toList with
    | error e =>
      rw [hbuild] at hissues
      cases e with
      | literal e => cases hissues
      | unreadable e => exact (hnone (Except.ok.inj hissues)).elim
      | illegalReturn line => exact (hnone (Except.ok.inj hissues)).elim
    | ok unit =>
      rw [hbuild] at hissues
      have hdetect : found.issues = detectIn (contextFor d.profile n text.toList unit.program) :=
        Except.ok.inj hissues
      exact ⟨n, unit, rfl, hdetect ▸ hi⟩

/-- **One walk.** At a level from 1 to 3, let a text have a tree. Of the findings in the text, those
of the kinds of a rule are what the rule reports when it runs alone. In all, they are those of the
rules on nodes, node by node in preorder, then unused declarations, blank runs, commented-out code
and unfinished work. For the empty text, the tree of which is not looked at, this takes a reader
that finds nothing in it. -/
theorem detect_rules (hempty : d.reader.ReadsEmpty) {text : String} {level : Int}
    {unit : ParsedUnit} (hlow : 1 ≤ level) (hhigh : level ≤ 3)
    (hbuild : buildWith d.reader d.profile.wrapperName text.toList = .ok unit) :
    let ctx := contextFor d.profile level text.toList unit.program
    ∃ found, d.detect (.string text) (.int level) = .ok found ∧
      (∀ rule : Rule, found.issues.filter (·.kind ∈ rule.kinds) = rule.issues ctx) ∧
      found.issues =
        ((preorder unit.program []).flatMap fun v =>
          [Rule.topLevelReturn, .debugOutput, .placeholderValue].flatMap fun rule =>
            ctx.reported (rule.inspect d.profile v))
          ++ Rule.unusedDeclaration.issues ctx ++ Rule.blankRun.issues ctx
          ++ Rule.commentedOutCode.issues ctx ++ Rule.todoComment.issues ctx := by
  intro ctx
  have hissues := d.issues_of_detect hempty text (clampLevel_of_mem hlow hhigh)
  rw [hbuild] at hissues
  cases hfound : d.detect (.string text) (.int level) with
  | error e =>
    rw [hfound] at hissues
    cases hissues
  | ok found =>
    rw [hfound] at hissues
    have hdetect : found.issues = detectIn ctx := Except.ok.inj hissues
    have hunits : Rule.onUnits.flatMap (·.issues ctx) =
        Rule.unusedDeclaration.issues ctx ++ (Rule.blankRun.issues ctx
          ++ (Rule.commentedOutCode.issues ctx ++ Rule.todoComment.issues ctx)) := by
      simp only [Rule.onUnits, List.flatMap_cons, List.flatMap_nil, List.append_nil]
    refine ⟨found, rfl, fun rule => ?_, ?_⟩
    · rw [hdetect, detectIn_filter_kinds]
    · rw [hdetect, detectIn_eq_append, hunits]
      simp only [List.append_assoc]
      rfl

end Detector

/-- The reader of the program makes a program without statements of the empty text. -/
theorem Script.readsEmpty_reader : reader.ReadsEmpty :=
  ⟨{}, by decide +kernel⟩

/-- Two rules report something in this text, one on a node and one on the whole unit. -/
theorem Detector.detect_rules_two :
    let d : Detector := { reader := Script.reader }
    let text := "let a;debugger"
    d.reader.ReadsEmpty ∧ ((1 : Int) ≤ 2 ∧ (2 : Int) ≤ 3) ∧
      ∃ unit, buildWith d.reader d.profile.wrapperName text.toList = .ok unit ∧
        ∃ found, d.detect (.string text) (.int 2) = .ok found ∧
          found.issues.map Issue.kind = [.debuggerStatement, .unusedDeclaration] ∧
          ∀ rule : Rule, found.issues.filter (·.kind ∈ rule.kinds) =
            rule.issues (contextFor {} 2 text.toList unit.program) := by
  intro d text
  have hlevel : (1 : Int) ≤ 2 ∧ (2 : Int) ≤ 3 := by decide
  have hkinds : ((d.detect (.string text) (.int 2)).map Detection.issues).toOption.map
      (·.map Issue.kind) = some [.debuggerStatement, .unusedDeclaration] := by decide +kernel
  have hissues := d.issues_of_detect Script.readsEmpty_reader text
    (clampLevel_of_mem hlevel.1 hlevel.2)
  refine ⟨Script.readsEmpty_reader, hlevel, ?_⟩
  cases hbuild : buildWith d.reader d.profile.wrapperName text.toList with
  | error e =>
    rw [hbuild] at hissues
    rw [hissues] at hkinds
    cases e <;> cases hkinds
  | ok unit =>
    obtain ⟨found, hfound, hrules, -⟩ :=
      d.detect_rules Script.readsEmpty_reader hlevel.1 hlevel.2 hbuild
    rw [hfound] at hkinds
    exact ⟨unit, rfl, found, hfound, Option.some.inj hkinds, hrules⟩

end FlowLint
