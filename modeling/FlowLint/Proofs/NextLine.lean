import FlowLint.Proofs.Positions
import FlowLint.Proofs.Shift

/-!
# A directive in front of a text

The directive for the next line, put on a line of its own before a text, takes away what is found
on the first line of the text. All else is found one line further down.

* `suppressionFrom_succ`: counting the lines from one higher number, the same directives cover what
  is one line further down. With the new line (`covers_nextLine`) the old first line is covered too.
* `findings_nextLine`: the new line is neither blank nor a comment that counts, nor does it hold a
  marker, so that nothing else changes.
* `spares_nextLine`: of a run of lines, too, the first one decides.
* `detect_nextLine`: the three together.
-/

namespace FlowLint

open Script Scoping

/-! ## Directives -/

/-- The region one line further down. -/
def Region.down (r : Region) : Region :=
  ⟨r.first + 1, r.last + 1⟩

/-- The same lines, one line further down. -/
def Suppression.down (s : Suppression) : Suppression :=
  { regions := s.regions.map Region.down
    singleLines := s.singleLines.map (· + 1)
    nextLines := s.nextLines.map (· + 1) }

theorem Region.contains_down (r : Region) (line : Int) :
    r.down.contains (line + 1) = r.contains line := by
  simp [contains, down]

theorem contains_map_succ (lines : List Int) (line : Int) :
    (lines.map (· + 1)).contains (line + 1) = lines.contains line := by
  simp [List.contains_eq_mem]

theorem Suppression.covers_down (s : Suppression) (line : Int) :
    s.down.covers (line + 1) = s.covers line := by
  simp only [covers, down, List.any_map, Function.comp_def, Region.contains_down,
    contains_map_succ]

namespace Directive

theorem regionEnd?_succ (marker : String) (first : Nat) (lines : List Line) :
    regionEnd? marker (first + 1) lines = (regionEnd? marker first lines).map (· + 1) := by
  induction lines generalizing first with
  | nil => rfl
  | cons line rest ih =>
    rw [regionEnd?, regionEnd?, ih]
    split <;> rfl

theorem suppressionFrom_succ (marker : String) (first : Nat) (lines : List Line) :
    suppressionFrom marker (first + 1) lines = (suppressionFrom marker first lines).down := by
  induction lines generalizing first with
  | nil => rfl
  | cons line rest ih =>
    rw [suppressionFrom, suppressionFrom, ih (first + 1), regionEnd?_succ marker (first + 1)]
    simp only [Suppression.down, Suppression.mk.injEq, List.map_append]
    refine ⟨?_, ?_, ?_⟩
    · congr 1
      split
      · cases regionEnd? marker (first + 1) rest <;> rfl
      · rfl
    · split <;> rfl
    · split <;> rfl

end Directive

/-- The directive for the next line, alone on a line. -/
def nextLine : String := "// @nr-analyzer-ignore-next"

/-- Before a text, the directive for the next line covers the first line. -/
theorem covers_nextLine {lines : List Line} (hlines : lines ≠ []) (line : Int) :
    (Directive.suppression Directive.defaultMarker (nextLine.toList :: lines)).covers (line + 1) =
      (decide (line = 1) ||
        (Directive.suppression Directive.defaultMarker lines).covers line) := by
  have hstart : Directive.holds Directive.defaultMarker "start" nextLine.toList = false := by
    decide
  have hline : Directive.holds Directive.defaultMarker "line" nextLine.toList = false := by
    decide
  have hnext : Directive.holds Directive.defaultMarker "next" nextLine.toList = true := by
    decide
  have hempty : lines.isEmpty = false := by
    simpa using hlines
  have hsuppression : Directive.suppression Directive.defaultMarker (nextLine.toList :: lines) =
      let s := (Directive.suppression Directive.defaultMarker lines).down
      { s with nextLines := 2 :: s.nextLines } := by
    rw [Directive.suppression, Directive.suppressionFrom, hstart, hline, hnext, hempty,
      Directive.suppressionFrom_succ]
    rfl
  have hfirst : (line + 1 == 2) = decide (line = 1) := by
    rw [Bool.eq_iff_iff, beq_iff_eq, decide_eq_true_iff]
    omega
  rw [hsuppression, ← Suppression.covers_down _ line]
  simp only [Suppression.covers, List.contains_cons, hfirst]
  exact Bool.or_left_comm ..

/-! ## Lines -/

theorem blankRuns_nextLine (lines : List Line) :
    blankRuns 2 (nextLine.toList :: lines) = (blankRuns 2 lines).map Run.down := by
  have hblank : Line.isBlank nextLine.toList = false := by decide
  rw [blankRuns, blankRunsFrom, hblank, blankRuns]
  simp only [Bool.false_eq_true, if_false, blankRunsFrom_succ, List.filter_map, Function.comp_def,
    Run.length_down]

theorem found_blankRunRemarks_nextLine (lines : List Line) :
    found (blankRunRemarks {} (nextLine.toList :: lines)) =
      (found (blankRunRemarks {} lines)).map Issue.down := by
  simp only [blankRunRemarks, Suppression.touches_empty, Bool.not_false, List.filter_true,
    found_map_finding]
  rw [blankRuns_nextLine, List.map_map, List.map_map]
  refine List.map_congr_left fun r _ => ?_
  rw [Function.comp_apply, Function.comp_apply, Run.length_down]
  rfl

/-- The directive ends a group of comment lines, and it is not in one itself. -/
theorem segments_nextLine (lines : List Line) :
    segments (commentMembership Directive.defaultMarker) 1 (nextLine.toList :: lines) =
      [] :: (segments (commentMembership Directive.defaultMarker) 1 lines).map (·.map (· + 1)) := by
  have hdivider : commentMembership Directive.defaultMarker nextLine.toList = .divider := by
    decide
  obtain ⟨seg, segs, hs⟩ := List.exists_cons_of_ne_nil
    (segments_ne_nil (commentMembership Directive.defaultMarker) 1 lines)
  rw [segments, segments_succ, hs, hdivider]
  rfl

theorem found_commentedOutRemark_down {lines : List Line} {numbers : List Nat} (line : Line)
    (hnumbers : ∀ n ∈ numbers, 1 ≤ n) :
    found (commentedOutRemark {} (line :: lines) (numbers.map (· + 1))) =
      (found (commentedOutRemark {} lines numbers)).map Issue.down := by
  rcases numbers with _ | ⟨first, _ | ⟨second, more⟩⟩
  · rfl
  · rfl
  let last := (second :: more).getLast?.getD first
  have hlast : last ∈ first :: second :: more := List.mem_of_getLast? List.getLast?_cons
  have hlast' : ((second + 1) :: more.map (· + 1)).getLast?.getD (first + 1) = last + 1 := by
    rw [← List.map_cons (f := (· + 1)), List.getLast?_map, Option.getD_map]
  have hline : (line :: lines)[last + 1 - 1]? = lines[last - 1]? := by
    have hpos := hnumbers last hlast
    rw [Nat.add_sub_cancel, List.getElem?_cons, if_neg (by omega)]
  simp only [commentedOutRemark, List.map_cons, Suppression.touches_empty, hlast', hline,
    List.length_cons, List.length_map]
  rfl

theorem found_commentedOutRemarks_nextLine (lines : List Line) :
    found (commentedOutRemarks {} Directive.defaultMarker (nextLine.toList :: lines)) =
      (found (commentedOutRemarks {} Directive.defaultMarker lines)).map Issue.down := by
  simp only [commentedOutRemarks, segments_nextLine, List.flatMap_cons, List.flatMap_map,
    found_flatMap, List.map_flatMap]
  rw [show commentedOutRemark {} (nextLine.toList :: lines) [] = [] from rfl, List.nil_append,
    found_flatMap]
  refine List.flatMap_congr fun numbers hnumbers => ?_
  exact found_commentedOutRemark_down _ (increasing_of_mem_segments numbers hnumbers).1

theorem found_todoRemarks_succ (first : Nat) (lines : List Line) :
    found (todoRemarks (first + 1) lines) = (found (todoRemarks first lines)).map Issue.down := by
  induction lines generalizing first with
  | nil => rfl
  | cons line rest ih =>
    have hline : found (todoRemark (first + 1) line) =
        (found (todoRemark first line)).map Issue.down := by
      unfold todoRemark
      split <;> rfl
    rw [todoRemarks, todoRemarks, found, found, List.filterMap_append, List.filterMap_append,
      List.map_append]
    exact congrArg₂ (· ++ ·) hline (ih (first + 1))

theorem found_todoRemarks_nextLine (lines : List Line) :
    found (todoRemarks 1 (nextLine.toList :: lines)) =
      (found (todoRemarks 1 lines)).map Issue.down := by
  have hnone : todoRemark 1 nextLine.toList = [] := by
    have hmarker : firstMarker? 1 nextLine.toList = none := by decide
    rw [todoRemark, hmarker]
  rw [todoRemarks, hnone, List.nil_append, found_todoRemarks_succ]

/-! ## Contexts -/

/-- Everything in a text behind the directive is found one line further down. -/
theorem findings_nextLine (ctx : Context) {program' : Node}
    (hmarker : ctx.profile.directiveMarker = Directive.defaultMarker)
    (h : Lowered ctx.program program') :
    findings
        { ctx with
          lines := nextLine.toList :: ctx.lines
          program := program'
          suppression := {} } =
      (findings ctx.bare).map Issue.down := by
  have hunused : found (unusedRemarks ctx.profile program') =
      (found (unusedRemarks ctx.profile ctx.program)).map Issue.down := by
    simp only [unusedRemarks, found_map_finding]
    rw [unusedBindings_lowered h, List.map_map, List.map_map]
    rfl
  simp only [findings, unitFindings, Rule.onUnits, List.flatMap_cons, List.flatMap_nil,
    Rule.remarks, nodeFindings_lowered h, hmarker, hunused, found_blankRunRemarks_nextLine,
    found_commentedOutRemarks_nextLine, found_todoRemarks_nextLine, List.map_append, List.map_nil]

/-- A context reports what is found without directives, up to its level, and is spared. -/
theorem detectIn_eq_spared (ctx : Context) :
    detectIn ctx = (findings ctx.bare).filter fun i =>
      i.kind.level ≤ ctx.level && ctx.suppression.Spares i := by
  rw [detectIn_eq, findings_eq_filter, List.filter_filter]
  refine List.filter_congr fun i hi => ?_
  rw [Suppression.spares_eq (line_le_endLine hi), Context.reports]
  rw [Bool.and_assoc, Bool.and_comm (!_)]

/-- A finding that stands for a run of lines does not start before the first line. -/
theorem one_le_line {ctx : Context} {i : Issue} (hi : i ∈ findings ctx) (hrun : i.kind.IsRun) :
    1 ≤ i.line := by
  have hrange : i.range.LiesIn ctx.lines :=
    (remark_of_isRun hi hrun).elim liesIn_of_blankRun liesIn_of_commentedOut
  obtain ⟨k, line, -, hk, -⟩ := hrange.start
  rw [Issue.line, hk]
  omega

/-- Covering the first line as well, directives drop the findings that start there as well. -/
theorem spares_nextLine {s s' : Suppression}
    (h : ∀ line, s'.covers (line + 1) = (decide (line = 1) || s.covers line)) {i : Issue}
    (hone : i.kind.IsRun → 1 ≤ i.line) (hle : i.kind.IsRun → i.line ≤ i.endLine) :
    s'.Spares i.down ↔ i.line ≠ 1 ∧ s.Spares i := by
  have hline : i.down.line = i.line + 1 := rfl
  have hend : i.down.endLine = i.endLine + 1 := rfl
  unfold Suppression.Spares
  rw [show i.down.kind = i.kind from rfl, hline, hend]
  split
  case isTrue hrun =>
    have hone := hone hrun
    have hle := hle hrun
    constructor
    · intro hfree
      have hboth (line : Int) (hlow : i.line ≤ line) (hhigh : line ≤ i.endLine) :
          line ≠ 1 ∧ s.covers line = false := by
        have hcovers := hfree (line + 1) (by omega) (by omega)
        rwa [h, Bool.or_eq_false_iff, decide_eq_false_iff_not] at hcovers
      exact ⟨(hboth i.line (Int.le_refl _) hle).1, fun line hlow hhigh => (hboth line hlow hhigh).2⟩
    · -- A run that starts after the first line does not reach back to it.
      rintro ⟨hfirst, hfree⟩ line hlow hhigh
      have hcovers := hfree (line - 1) (by omega) (by omega)
      rw [← Int.sub_add_cancel line 1, h, hcovers, Bool.or_false, decide_eq_false_iff_not]
      omega
  case isFalse =>
    rw [h, Bool.or_eq_false_iff, decide_eq_false_iff_not]

theorem toList_nextLine (text : String) :
    (nextLine ++ "\n" ++ text).toList = nextLine.toList ++ '\n' :: text.toList := by
  have hfeed : "\n".toList = ['\n'] := by decide
  rw [String.toList_append, String.toList_append, hfeed, List.append_assoc, List.singleton_append]

theorem splitLines_nextLine (text : List Char) :
    splitLines (nextLine.toList ++ '\n' :: text) = nextLine.toList :: splitLines text := by
  have hline : '\n' ∉ nextLine.toList := by decide
  rw [splitLines_append, splitLines_of_not_mem hline, List.singleton_append]

/-- What is reported of a text behind the directive. -/
theorem detectIn_nextLine {program program' : Node} (h : Lowered program program') (level : Int)
    (text : List Char) :
    detectIn (contextFor {} level (nextLine.toList ++ '\n' :: text) program') =
      ((detectIn (contextFor {} level text program)).filter (·.line ≠ 1)).map Issue.down := by
  let ctx := contextFor {} level text program
  let ctx' := contextFor {} level (nextLine.toList ++ '\n' :: text) program'
  have hbare : ctx'.bare =
      { ctx with
        lines := nextLine.toList :: ctx.lines
        program := program'
        suppression := {} } := by
    simp only [ctx, ctx', contextFor, Context.bare, splitLines_nextLine]
  have hcovers (line : Int) :
      ctx'.suppression.covers (line + 1) = (decide (line = 1) || ctx.suppression.covers line) := by
    simp only [ctx, ctx', contextFor, splitLines_nextLine]
    exact covers_nextLine (splitLines_ne_nil text) line
  calc detectIn ctx'
      = ((findings ctx.bare).map Issue.down).filter fun i =>
          i.kind.level ≤ level && ctx'.suppression.Spares i := by
        rw [detectIn_eq_spared, hbare, findings_nextLine ctx rfl h]
        rfl
    _ = ((findings ctx.bare).filter fun i =>
          decide (i.line ≠ 1) && (i.kind.level ≤ level && ctx.suppression.Spares i)).map
            Issue.down := by
        rw [List.filter_map]
        refine congrArg _ (List.filter_congr fun i hi => ?_)
        have hspares := spares_nextLine hcovers (one_le_line hi) (line_le_endLine hi)
        rw [Function.comp_apply, decide_eq_decide.mpr hspares, Bool.decide_and, Bool.and_left_comm]
        rfl
    _ = ((detectIn ctx).filter (·.line ≠ 1)).map Issue.down := by
        rw [detectIn_eq_spared, List.filter_filter]
        rfl

/-! ## Texts -/

/-- Two builds compare: the second tree has the statements of the first one line further down, or
both texts have no tree. A literal without a value, which is an error of its own, is the same. -/
inductive Compares : Except BuildError ParsedUnit → Except BuildError ParsedUnit → Prop
  | built {unit unit' : ParsedUnit} (h : Lowered unit.program unit'.program) :
      Compares (.ok unit) (.ok unit')
  | failed {e e' : BuildError} (h : ∀ cause, e = .literal cause ↔ e' = .literal cause) :
      Compares (.error e) (.error e')

/-- **Next line.** If the tree of a text behind the directive for the next line has the statements
of the tree of the text alone one line further down, or neither has a tree, then what is found in
the text is found there as well one line further down, in the same order, except for what starts on
the first line. The empty text, in which nothing is looked for, has to have no statements. -/
theorem detect_nextLine {reader : SyntaxReader} (hempty : reader.ReadsEmpty) {text : String}
    {level : Json} {n : Int} (hlevel : clampLevel level = .ok n)
    (hbuild : Compares (buildWith reader defaultWrapper text.toList)
      (buildWith reader defaultWrapper (nextLine ++ "\n" ++ text).toList)) :
    let d : Detector := { reader }
    (d.detect (.string (nextLine ++ "\n" ++ text)) level).map Detection.issues =
      (d.detect (.string text) level).map fun found =>
        (found.issues.filter (·.line ≠ 1)).map Issue.down := by
  intro d
  have hmap : (d.detect (.string text) level).map
      (fun found => (found.issues.filter (·.line ≠ 1)).map Issue.down) =
      ((d.detect (.string text) level).map Detection.issues).map
        fun issues => (issues.filter (·.line ≠ 1)).map Issue.down := by
    cases d.detect (.string text) level <;> rfl
  have hname : d.profile.wrapperName = defaultWrapper := rfl
  rw [hmap, d.issues_of_detect hempty _ hlevel, d.issues_of_detect hempty _ hlevel, hname]
  rw [toList_nextLine] at hbuild ⊢
  generalize buildWith reader defaultWrapper text.toList = built at hbuild
  generalize buildWith reader defaultWrapper (nextLine.toList ++ '\n' :: text.toList) = built'
    at hbuild
  cases hbuild with
  | @built unit unit' h => exact congrArg Except.ok (detectIn_nextLine h n text.toList)
  | @failed e e' h =>
    cases e with
    | literal cause =>
      rw [(h cause).mp rfl]
      rfl
    | _ =>
      cases e' with
      | literal cause => cases (h cause).mpr rfl
      | _ => rfl

/-- Of a breakpoint and a return, which make the unit one inside the wrapper, the return is left. -/
theorem detect_nextLine_two_lines :
    let d : Detector := { reader }
    let text := "debugger;\nreturn;"
    reader.ReadsEmpty ∧ clampLevel (.int 2) = .ok 2 ∧
      Compares (buildWith reader defaultWrapper text.toList)
        (buildWith reader defaultWrapper (nextLine ++ "\n" ++ text).toList) ∧
      (d.detect (.string (nextLine ++ "\n" ++ text)) (.int 2)).map Detection.issues =
        (d.detect (.string text) (.int 2)).map (fun found =>
          (found.issues.filter (·.line ≠ 1)).map Issue.down) ∧
      (d.detect (.string text) (.int 2)).toOption.map (·.issues.map fun i => (i.kind, i.line)) =
        some [(.debuggerStatement, 1), (.emptyReturn, 2)] := by
  intro d source
  have hlevel : clampLevel (.int 2) = .ok 2 := rfl
  let text := "debugger;\nreturn;".toList
  let text' := nextLine.toList ++ '\n' :: text
  let parts (row : Nat) : List Concrete :=
    [.node .debuggerStatement .part ⟨⟨row, 0⟩, ⟨row, 9⟩⟩ "" [],
      .node .returnStatement .part ⟨⟨row + 1, 0⟩, ⟨row + 1, 7⟩⟩ "" []]
  let wrapped (row last : Nat) : Concrete :=
    .node .program .part ⟨⟨0, 0⟩, ⟨last, 1⟩⟩ ""
      [.node .functionDeclaration .part ⟨⟨0, 0⟩, ⟨last, 1⟩⟩ ""
        [.node .identifier .name ⟨⟨0, 9⟩, ⟨0, 23⟩⟩ defaultWrapper [],
          .node .statementBlock .body ⟨⟨0, 26⟩, ⟨last, 1⟩⟩ "" (parts row)]]
  have hread : reader text = .ok (.node .program .part ⟨⟨0, 0⟩, ⟨1, 7⟩⟩ "" (parts 0)) := by
    decide +kernel
  have hread' : reader text' = .ok (.node .program .part ⟨⟨0, 0⟩, ⟨2, 7⟩⟩ "" (parts 1)) := by
    decide +kernel
  have hreread : reader (wrap defaultWrapper text) = .ok (wrapped 1 3) := by decide +kernel
  have hreread' : reader (wrap defaultWrapper text') = .ok (wrapped 2 4) := by decide +kernel
  let statements : List Node := [.debugger (.ofLines 1 1 1 10), .returns none (.ofLines 2 1 2 8)]
  have hparse : parseWith reader text 0 none = .ok (.program statements (.ofLines 1 1 2 8)) :=
    parseWith_eq_ok.mpr ⟨_, hread, rfl⟩
  have hparse' : parseWith reader text' 0 none =
      .ok (.program (statements.map Node.down) (.ofLines 1 1 3 8)) :=
    parseWith_eq_ok.mpr ⟨_, hread', rfl⟩
  have hreturn (r r' range : SourceRange) :
      ReturnsAtTop (.program [.debugger r, .returns none r'] range) := by
    refine ⟨none, r', [.program [.debugger r, .returns none r'] range], ?_, ?_⟩
    · simp [walk, walkStack, Visit.below, Node.children]
    · simp [Node.isFunction]
  have hname : '\n' ∉ defaultWrapper.toList := by decide
  have hwithin : ∀ s ∈ Concrete.spansAll (parts 0), Within (splitLines text).length s := by
    decide
  have hwithin' : ∀ s ∈ Concrete.spansAll (parts 1), Within (splitLines text').length s := by
    decide
  have hparts : convertAll (plainLayout text) .value true (parts 0) = .ok statements := rfl
  have hparts' : convertAll (plainLayout text') .value true (parts 1) =
      .ok (statements.map Node.down) := rfl
  obtain ⟨_, _, _, _, hbuild⟩ := buildWith_wraps hparse (hreturn ..) hreread (Wraps.intro ..)
    ((convertAll_wrapped hname hwithin).trans hparts)
  obtain ⟨_, _, _, _, hbuild'⟩ := buildWith_wraps hparse' (hreturn ..) hreread' (Wraps.intro ..)
    ((convertAll_wrapped hname hwithin').trans hparts')
  have hcompares : Compares (buildWith reader defaultWrapper text)
      (buildWith reader defaultWrapper (nextLine ++ "\n" ++ "debugger;\nreturn;").toList) := by
    rw [toList_nextLine, hbuild, hbuild']
    exact .built (.wrapped ..)
  exact ⟨readsEmpty_reader, hlevel, hcompares, detect_nextLine readsEmpty_reader hlevel hcompares,
    by decide +kernel⟩

end FlowLint
