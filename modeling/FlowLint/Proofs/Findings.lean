import FlowLint.Detect
import FlowLint.Program.Reader

/-!
# What is reported, and what is found

A level switches whole rules off, and single findings are dropped where rules hand them over.
What is reported is nevertheless a filter of one list, which does not depend on the level.

* `findings` lists what all rules find, whether or not it is reported, and `detectIn_eq` says that
  a context reports those that its level and its directives let through.
* `mem_findings`: these are the findings that the rules make one by one.
* `Detector.detect_levels`: a level reports what a higher one reports of the kinds up to it.
-/

namespace FlowLint

open Script

/-! ## Findings among remarks -/

/-- The finding that a remark makes. -/
def Remark.issue? : Remark → Option Issue
  | finding i => some i
  | note _ => none

/-- The findings among remarks. -/
def found (remarks : List Remark) : List Issue :=
  remarks.filterMap Remark.issue?

theorem mem_found {i : Issue} {remarks : List Remark} :
    i ∈ found remarks ↔ .finding i ∈ remarks := by
  simp only [found, List.mem_filterMap]
  constructor
  · rintro ⟨r, hr, h⟩
    cases r with
    | finding j => cases h; exact hr
    | note text => cases h
  · exact fun h => ⟨_, h, rfl⟩

/-- Is a finding reported? -/
def Context.reports (ctx : Context) (i : Issue) : Bool :=
  i.kind.level ≤ ctx.level && !ctx.suppression.covers i.line

/-- Of remarks, the findings are left that are reported. -/
theorem issues_of_accept (ctx : Context) (remarks : List Remark) :
    (remarks.flatMap ctx.accept).filterMap Event.issue? =
      (found remarks).filter ctx.reports := by
  induction remarks with
  | nil => rfl
  | cons r rs ih =>
    rw [List.flatMap_cons, List.filterMap_append, ih]
    cases r with
    | note text => rfl
    | finding i =>
      have hnote : (Context.suppressedNote i).issue? = none := rfl
      show _ = List.filter ctx.reports (i :: found rs)
      rw [List.filter_cons, Context.accept, Context.reports]
      by_cases hl : ctx.level < i.kind.level
      · have hn : ¬ i.kind.level ≤ ctx.level := by omega
        simp [hl, hn]
      · have hle : i.kind.level ≤ ctx.level := by omega
        have hfound : (Event.found i).issue? = some i := rfl
        cases hs : ctx.suppression.covers i.line <;> simp [hl, hle, hnote, hfound]

/-! ## Rules keep to their kinds -/

namespace Rule

/-- A finding is of a kind of the rule, with a text for its message. -/
def Makes (rule : Rule) (i : Issue) : Prop :=
  ∃ kind ∈ rule.kinds, ∃ message range variant, i = .found kind message range variant

theorem Makes.kind_mem {rule : Rule} {i : Issue} (h : rule.Makes i) : i.kind ∈ rule.kinds := by
  obtain ⟨kind, hkind, -, -, -, rfl⟩ := h
  exact hkind

theorem makes_of_inspect {rule : Rule} {profile : HostProfile} {v : Visit} {i : Issue}
    (h : .finding i ∈ rule.inspect profile v) : rule.Makes i := by
  unfold Makes
  cases rule with
  | topLevelReturn =>
    simp only [inspect, returnRemarks] at h
    grind [kinds]
  | debugOutput =>
    simp only [inspect, outputRemarks] at h
    grind [kinds]
  | placeholderValue =>
    simp only [inspect, placeholderRemarks] at h
    grind [kinds]
  | _ => cases h

/-- What a rule finds on a node is of its kinds. -/
theorem kind_of_inspect {rule : Rule} {profile : HostProfile} {v : Visit} {i : Issue}
    (h : .finding i ∈ rule.inspect profile v) : i.kind ∈ rule.kinds :=
  (makes_of_inspect h).kind_mem

theorem makes_of_todoRemarks {first : Nat} {lines : List Line} {i : Issue}
    (h : .finding i ∈ todoRemarks first lines) : todoComment.Makes i := by
  induction lines generalizing first with
  | nil => cases h
  | cons line rest ih =>
    rw [todoRemarks] at h
    rcases List.mem_append.mp h with h | h
    · unfold todoRemark at h
      grind [Makes, kinds]
    · exact ih h

/-- What a rule finds in a unit it makes. -/
theorem makes_of_remarks {rule : Rule} {ctx : Context} {i : Issue}
    (h : .finding i ∈ rule.remarks ctx) : rule.Makes i := by
  cases rule with
  | topLevelReturn | debugOutput | placeholderValue =>
    obtain ⟨v, -, hv⟩ := List.mem_flatMap.mp h
    exact makes_of_inspect hv
  | unusedDeclaration =>
    obtain ⟨b, -, hb⟩ := List.mem_map.mp h
    cases hb
    exact ⟨_, List.mem_singleton.mpr rfl, _, _, _, rfl⟩
  | blankRun =>
    obtain ⟨r, -, hr⟩ := List.mem_map.mp h
    cases hr
    exact ⟨_, List.mem_singleton.mpr rfl, _, _, _, rfl⟩
  | commentedOutCode =>
    obtain ⟨numbers, -, hn⟩ := List.mem_flatMap.mp h
    unfold commentedOutRemark at hn
    grind [Makes, kinds]
  | todoComment => exact makes_of_todoRemarks h

/-- What a rule finds in a unit is of its kinds. -/
theorem kind_of_remarks {rule : Rule} {ctx : Context} {i : Issue}
    (h : .finding i ∈ rule.remarks ctx) : i.kind ∈ rule.kinds :=
  (makes_of_remarks h).kind_mem

/-- A rule on nodes says about a unit what it says about its nodes. -/
theorem remarks_of_mem_onNodes {rule : Rule} {ctx : Context} (h : rule ∈ onNodes) :
    rule.remarks ctx = (walk ctx.program []).flatMap (rule.inspect ctx.profile) := by
  simp only [onNodes, List.mem_cons, List.not_mem_nil, or_false] at h
  rcases h with rfl | rfl | rfl <;> rfl

theorem mem_onNodes_or_onUnits (rule : Rule) : rule ∈ onNodes ∨ rule ∈ onUnits := by
  cases rule <;> decide

/-- A rule that is switched off would report nothing. -/
theorem not_reports_of_not_enabled {rule : Rule} {ctx : Context} {i : Issue}
    (he : rule.enabled ctx.level = false) (hi : i.kind ∈ rule.kinds) :
    ctx.reports i = false := by
  have hl : ¬ i.kind.level ≤ ctx.level := by
    simpa using List.any_eq_false.mp he i.kind hi
  simp [Context.reports, hl]

end Rule

/-! ## All findings -/

/-- What the rules on nodes find, node by node. -/
def nodeFindings (profile : HostProfile) (program : Node) : List Issue :=
  (walk program []).flatMap fun v =>
    Rule.onNodes.flatMap fun rule => found (rule.inspect profile v)

/-- What the rules on whole units find. -/
def unitFindings (ctx : Context) : List Issue :=
  Rule.onUnits.flatMap fun rule => found (rule.remarks ctx)

/-- Everything that the rules find, in the order in which it is reported. -/
def findings (ctx : Context) : List Issue :=
  nodeFindings ctx.profile ctx.program ++ unitFindings ctx

/-- Rules that are switched off change nothing, if they would report nothing. -/
theorem flatMap_enabled {ctx : Context} {rules : List Rule} {f : Rule → List Remark}
    (hf : ∀ rule i, .finding i ∈ f rule → i.kind ∈ rule.kinds) :
    ((rules.filter (·.enabled ctx.level)).flatMap fun rule =>
        (f rule).flatMap ctx.accept).filterMap Event.issue? =
      (rules.flatMap fun rule => found (f rule)).filter ctx.reports := by
  induction rules with
  | nil => rfl
  | cons rule rules ih =>
    rw [List.filter_cons, List.flatMap_cons, List.filter_append, ← ih]
    cases he : rule.enabled ctx.level with
    | true => rw [if_pos rfl, List.flatMap_cons, List.filterMap_append, issues_of_accept]
    | false =>
      have hnone : (found (f rule)).filter ctx.reports = [] := by
        refine List.filter_eq_nil_iff.mpr fun i hi => ?_
        rw [Rule.not_reports_of_not_enabled he (hf rule i (mem_found.mp hi))]
        exact Bool.false_ne_true
      rw [hnone, List.nil_append, if_neg Bool.false_ne_true]

theorem issues_of_nodeEvents (ctx : Context) :
    (nodeEvents ctx).filterMap Event.issue? =
      (nodeFindings ctx.profile ctx.program).filter ctx.reports := by
  unfold nodeEvents nodeFindings
  induction walk ctx.program [] with
  | nil => rfl
  | cons v vs ih =>
    simp only [List.flatMap_cons, List.filterMap_append, List.filter_append] at ih ⊢
    rw [ih, flatMap_enabled fun rule i => Rule.kind_of_inspect]

theorem issues_of_unitEvents (ctx : Context) :
    (unitEvents ctx).filterMap Event.issue? = (unitFindings ctx).filter ctx.reports :=
  flatMap_enabled fun _ _ => Rule.kind_of_remarks

/-- **Reports.** A context reports the findings that its level and its directives let through. -/
theorem detectIn_eq (ctx : Context) : detectIn ctx = (findings ctx).filter ctx.reports := by
  rw [detectIn, ruleEvents, List.filterMap_append, issues_of_nodeEvents, issues_of_unitEvents,
    findings, List.filter_append]

theorem mem_nodeFindings {profile : HostProfile} {program : Node} {i : Issue} :
    i ∈ nodeFindings profile program ↔
      ∃ rule ∈ Rule.onNodes, ∃ v ∈ walk program [], .finding i ∈ rule.inspect profile v := by
  simp only [nodeFindings, List.mem_flatMap, mem_found]
  constructor
  · rintro ⟨v, hv, rule, hrule, h⟩
    exact ⟨rule, hrule, v, hv, h⟩
  · rintro ⟨rule, hrule, v, hv, h⟩
    exact ⟨v, hv, rule, hrule, h⟩

/-- What is found is what some rule finds when it runs alone. -/
theorem mem_findings {ctx : Context} {i : Issue} :
    i ∈ findings ctx ↔ ∃ rule : Rule, .finding i ∈ rule.remarks ctx := by
  rw [findings, List.mem_append, mem_nodeFindings]
  simp only [unitFindings, List.mem_flatMap, mem_found]
  constructor
  · rintro (⟨rule, hrule, v, hv, h⟩ | ⟨rule, -, h⟩)
    · refine ⟨rule, ?_⟩
      rw [Rule.remarks_of_mem_onNodes hrule]
      exact List.mem_flatMap.mpr ⟨v, hv, h⟩
    · exact ⟨rule, h⟩
  · rintro ⟨rule, h⟩
    rcases rule.mem_onNodes_or_onUnits with hrule | hrule
    · rw [Rule.remarks_of_mem_onNodes hrule] at h
      obtain ⟨v, hv, h⟩ := List.mem_flatMap.mp h
      exact .inl ⟨rule, hrule, v, hv, h⟩
    · exact .inr ⟨rule, hrule, h⟩

/-! ## Levels -/

/-- A context at a lower level reports what it reports of the kinds up to that level. -/
theorem detectIn_level (ctx : Context) {low : Int} (h : low ≤ ctx.level) :
    detectIn { ctx with level := low } = (detectIn ctx).filter (·.kind.level ≤ low) := by
  have hfindings : findings { ctx with level := low } = findings ctx := rfl
  rw [detectIn_eq, detectIn_eq, hfindings, List.filter_filter]
  refine List.filter_congr fun i _ => ?_
  rw [Context.reports, Context.reports, ← Bool.and_assoc]
  congr 1
  by_cases hi : i.kind.level ≤ low
  · have hi' : i.kind.level ≤ ctx.level := Int.le_trans hi h
    simp [hi, hi']
  · simp [hi]

/-- A level from 1 to 3 is kept. -/
theorem clampLevel_of_mem {n : Int} (h : 1 ≤ n) (h' : n ≤ 3) : clampLevel (.int n) = .ok n := by
  have hclamp : max 1 (min 3 n) = n := by omega
  exact congrArg Except.ok hclamp

theorem map_mapError {ε ε' α β : Type} (x : Except ε α) (e : ε → ε') (f : α → β) :
    (x.mapError e).map f = (x.map f).mapError e := by
  cases x <;> rfl

namespace Detector

variable (d : Detector)

/-- What a reader makes of a text does not hang on the level. -/
theorem detectText_level (text : List Char) {low high : Int} (h : low ≤ high) :
    (d.detectText low text).map Detection.issues =
      (d.detectText high text).map fun found => found.issues.filter (·.kind.level ≤ low) := by
  unfold detectText
  split
  case h_1 unit _ =>
    exact congrArg Except.ok (detectIn_level (contextFor d.profile high text unit.program) h)
  case h_2 => rfl
  case h_3 => rfl

/-- At a level from 1 to 3 a text is read, and the level is used as it is. -/
theorem detect_text {text : String} (ht : text ≠ "") {n : Int} (h : 1 ≤ n) (h' : n ≤ 3) :
    d.detect (.string text) (.int n) = (d.detectText n text.toList).mapError .literal := by
  simp only [detect, if_neg ht, clampLevel_of_mem h h']
  cases d.detectText n text.toList <;> rfl

/-- **Levels.** A level reports what a higher one reports of the kinds up to it, in the same
order, and fails where the higher one fails. -/
theorem detect_levels (source : Json) {low high : Int} (hlow : 1 ≤ low) (h : low ≤ high)
    (hhigh : high ≤ 3) :
    (d.detect source (.int low)).map Detection.issues =
      (d.detect source (.int high)).map fun found =>
        found.issues.filter (·.kind.level ≤ low) := by
  cases source with
  | string text =>
    by_cases ht : text = ""
    · simp only [detect, if_pos ht]
      rfl
    · rw [d.detect_text ht hlow (Int.le_trans h hhigh),
        d.detect_text ht (Int.le_trans hlow h) hhigh, map_mapError, map_mapError,
        d.detectText_level text.toList h]
  | _ => rfl

/-- Two findings of different levels, of which the lowest level reports one. -/
theorem detect_levels_one_three :
    let d : Detector := { reader := Script.reader }
    let source : Json := .string "return;\ndebugger;"
    ((1 : Int) ≤ 1 ∧ (1 : Int) ≤ 3 ∧ (3 : Int) ≤ 3) ∧
      (d.detect source (.int 1)).map Detection.issues =
        (d.detect source (.int 3)).map (fun found =>
          found.issues.filter (·.kind.level ≤ 1)) ∧
      (d.detect source (.int 3)).toOption.map (fun found => found.issues.map Issue.kind) =
        some [.emptyReturn, .debuggerStatement] :=
  ⟨by decide, detect_levels _ _ (by decide) (by decide) (by decide), by decide +kernel⟩

end Detector

end FlowLint
