import FlowLint.Detect
import FlowLint.Program.Reader
import FlowLint.Proofs.Conversion
import FlowLint.Proofs.Units

/-!
# Literals without a value

A string may hold an escape that names no code point, and a number may be beyond all doubles. Such
a literal has no value. This module says when that makes detection fail, and when the level does.

* `Concrete.Reaches`: conversion of a construct comes to a grammar node.
* `convert_ok_iff`: a construct is converted exactly if every literal it comes to has a value.
* `Detector.detect_fails_iff`: when a literal of a source or the level makes detection fail.
* `Detector.detect_escaped_eight`: an escaped digit that is not octal is such a literal.
-/

namespace FlowLint.Script

/-! ## What conversion comes to -/

/-- A literal without a value: a string with an escape that names no code point, or a number beyond
all doubles. -/
def Concrete.Valueless (c : Concrete) : Prop :=
  (c.kind = .string ∧ ∃ e, cook (c.text.toList.drop 1).dropLast = .error e) ∨
    c.kind = .number ∧ ∃ e, numberLiteral c.text = .error e

theorem Concrete.valueless_iff {kind : Kind} {role : Role} {span : Span} {text : String}
    {cs : List Concrete} :
    (node kind role span text cs).Valueless ↔
      (kind = .string ∧ ∃ e, cook (text.toList.drop 1).dropLast = .error e) ∨
        kind = .number ∧ ∃ e, numberLiteral text = .error e :=
  Iff.rfl

/-- The parts of a construct that are converted, each with the mode in which it is. -/
def Concrete.readParts (mode : Mode) : Concrete → List (Mode × Concrete)
  | .node kind _ _ _ cs =>
    let all (m : Mode) := (cs.filter (·.kind != .token)).map (m, ·)
    let first (m : Mode) (role : Role) := (cs.find? (·.role == role)).toList.map (m, ·)
    let each (m : Mode) (role : Role) := (cs.filter (·.role == role)).map (m, ·)
    match kind with
    | .identifier | .shorthandProperty | .propertyIdentifier | .privatePropertyIdentifier
    | .statementIdentifier | .string | .number | .trueLiteral | .falseLiteral | .nullLiteral
    | .regex | .debuggerStatement => []
    | .functionDeclaration | .generatorFunctionDeclaration | .functionExpression
    | .generatorFunction | .arrowFunction | .methodDefinition =>
      first .value .name ++ each .target .parameter ++ first .value .body
    | .classDeclaration | .classExpression =>
      first .value .heritage ++ first .value .name ++ each .value .member
    | .variableDeclarator => first .target .name ++ first .value .value
    | .assignment | .augmentedAssignment => first .target .left ++ first .value .right
    | .call => each .value .argument ++ first .value .function
    | .new => first .value .function ++ each .value .argument
    | .member => first .value .object ++ first .value .property
    | .subscript => first .value .object ++ first .value .index
    | .catchClause => first .target .parameter ++ first .value .body
    | .forInStatement =>
      (cs.filter (·.kind != .token)).map fun c =>
        (if (textAt .kind cs).isSome && c.role == .left then .target else .value, c)
    | .parenthesized | .objectPattern | .arrayPattern | .restPattern => all mode
    | .shorthandPropertyPattern => if mode = .target then [] else all .value
    | .pairPattern =>
      if mode = .target then first .value .key ++ first .target .value else all .value
    | .assignmentPattern | .objectAssignmentPattern =>
      if mode = .target then first .target .left ++ first .value .right else all .value
    | _ => all .value

/-- Conversion of a construct comes to a grammar node at or below it. -/
inductive Concrete.Reaches : Mode → Concrete → Concrete → Prop
  | self {mode : Mode} {c : Concrete} : Reaches mode c c
  | part {mode m : Mode} {c p d : Concrete} (hp : (m, p) ∈ c.readParts mode)
      (hd : Reaches m p d) : Reaches mode c d

/-- Every literal that conversion of a construct comes to has a value. -/
def Concrete.Valued (mode : Mode) (c : Concrete) : Prop :=
  ∀ d, Reaches mode c d → ¬ d.Valueless

theorem Concrete.valued_iff {mode : Mode} {c : Concrete} :
    c.Valued mode ↔ ¬ c.Valueless ∧ ∀ p ∈ c.readParts mode, p.2.Valued p.1 := by
  constructor
  · intro h
    exact ⟨h c .self, fun p hp d hd => h d (.part hp hd)⟩
  · rintro ⟨hself, hparts⟩ d hd
    cases hd with
    | self => exact hself
    | part hp hd => exact hparts _ hp d hd

theorem mapM_ok_iff {ε α β : Type} {f : α → Except ε β} {xs : List α} :
    (∃ ys, xs.mapM f = .ok ys) ↔ ∀ x ∈ xs, ∃ y, f x = .ok y := by
  induction xs with
  | nil => simp [pure, Except.pure]
  | cons x xs ih =>
    rw [List.forall_mem_cons, ← ih]
    constructor
    · rintro ⟨ys, h⟩
      rw [List.mapM_cons] at h
      obtain ⟨y, hy, h⟩ := bind_eq_ok.mp h
      obtain ⟨ys', hys, -⟩ := bind_eq_ok.mp h
      exact ⟨⟨y, hy⟩, ys', hys⟩
    · rintro ⟨⟨y, hy⟩, ys, hys⟩
      refine ⟨y :: ys, ?_⟩
      rw [List.mapM_cons, hy, hys]
      rfl

/-- A step that is followed by steps that may fail succeeds if it does and they do. -/
theorem exists_bind_eq_ok {ε α β : Type} {x : Except ε α} {f : α → Except ε β} :
    (∃ b, (x >>= f) = .ok b) ↔ ∃ a, x = .ok a ∧ ∃ b, f a = .ok b := by
  constructor
  · rintro ⟨b, h⟩
    obtain ⟨a, ha, hb⟩ := bind_eq_ok.mp h
    exact ⟨a, ha, b, hb⟩
  · rintro ⟨a, ha, b, hb⟩
    exact ⟨b, bind_eq_ok.mpr ⟨a, ha, hb⟩⟩

theorem exists_map_eq_ok {ε α β : Type} {x : Except ε α} {f : α → β} :
    (∃ b, f <$> x = .ok b) ↔ ∃ a, x = .ok a := by
  cases x with
  | error e => simp
  | ok a => simp

theorem exists_ok_iff {ε α : Type} {x : Except ε α} : (∃ a, x = .ok a) ↔ ¬ ∃ e, x = .error e := by
  cases x with
  | error e => simp
  | ok a => simp

theorem exists_pure_eq_ok {ε α : Type} {a : α} :
    (∃ b, (pure a : Except ε α) = .ok b) ↔ True :=
  iff_true_intro ⟨a, rfl⟩

section Parts

variable {l : Layout} {mode : Mode} {role : Role} {keyword : Option String} {cs : List Concrete}
  (h : ∀ c ∈ cs, ∀ mode atTop, (∃ n, convert l mode atTop c = .ok n) ↔ c.Valued mode)

include h

theorem convertAll_ok_iff (atTop : Bool) :
    (∃ ns, convertAll l mode atTop cs = .ok ns) ↔
      ∀ c ∈ cs.filter (·.kind != .token), c.Valued mode := by
  rw [convertAll_eq, mapM_ok_iff]
  exact forall₂_congr fun c hc => h c (List.mem_of_mem_filter hc) mode atTop

theorem convertAllAt_ok_iff :
    (∃ ns, convertAllAt l mode role cs = .ok ns) ↔
      ∀ c ∈ cs.filter (·.role == role), c.Valued mode := by
  rw [convertAllAt_eq, mapM_ok_iff]
  exact forall₂_congr fun c hc => h c (List.mem_of_mem_filter hc) mode false

theorem convertAt_ok_iff :
    (∃ n, convertAt l mode role cs = .ok n) ↔
      ∀ c ∈ (cs.find? (·.role == role)).toList, c.Valued mode := by
  rw [convertAt_eq]
  cases hc : cs.find? (·.role == role) with
  | none => simp
  | some c =>
    have hvalued := h c (List.mem_of_find?_eq_some hc) mode false
    simp only [Option.toList_some, List.mem_singleton, forall_eq, ← hvalued]
    exact exists_map_eq_ok

theorem convertLoop_ok_iff :
    (∃ ns, convertLoop l keyword cs = .ok ns) ↔
      ∀ c ∈ cs.filter (·.kind != .token),
        c.Valued (if keyword.isSome && c.role == .left then .target else .value) := by
  rw [convertLoop_eq, mapM_ok_iff]
  refine forall₂_congr fun c hc => ?_
  have hvalued := h c (List.mem_of_mem_filter hc)
  cases keyword with
  | none => exact hvalued .value false
  | some word =>
    by_cases hleft : (c.role == .left) = true
    · have hmode : (if (some word).isSome && c.role == .left then Mode.target else .value) =
          .target := by
        simp [hleft]
      rw [hmode, ← hvalued .target false, convertLoopPart, if_pos hleft, exists_bind_eq_ok]
      simp only [exists_pure_eq_ok, and_true]
    · have hmode : (if (some word).isSome && c.role == .left then Mode.target else .value) =
          .value := by
        simp [hleft]
      rw [hmode, ← hvalued .value false, convertLoopPart, if_neg hleft]

end Parts

/-- **Conversion.** A construct is converted exactly if every literal it comes to has a value. -/
theorem convert_ok_iff {l : Layout} {mode : Mode} {atTop : Bool} {c : Concrete} :
    (∃ n, convert l mode atTop c = .ok n) ↔ c.Valued mode := by
  induction c using Concrete.parts_induction generalizing mode atTop with
  | step kind role span text cs ih =>
    replace ih : ∀ c ∈ cs, ∀ mode atTop,
        (∃ n, convert l mode atTop c = .ok n) ↔ c.Valued mode :=
      fun c hc mode atTop => ih c hc
    rw [Concrete.valued_iff, convert.eq_def]
    cases kind
    case parenthesized =>
      have hparts : (∃ ns, convertAll l mode false cs = .ok ns) ↔
          ∀ c ∈ cs.filter (·.kind != .token), c.Valued mode :=
        convertAll_ok_iff ih false
      simp only [exists_bind_eq_ok, Concrete.readParts, Concrete.valueless_iff, reduceCtorEq,
        false_and, or_false, not_false_eq_true, true_and, List.forall_mem_map, ← hparts]
      constructor
      · rintro ⟨parts, h, -⟩
        exact ⟨parts, h⟩
      · rintro ⟨parts, h⟩
        refine ⟨parts, h, ?_⟩
        split
        · exact ⟨_, rfl⟩
        · exact ⟨_, rfl⟩
    -- Patterns, which are expressions unless they are targets.
    case' objectPattern | arrayPattern | restPattern | pairPattern | shorthandPropertyPattern
        | objectAssignmentPattern | assignmentPattern =>
      cases mode
    all_goals simp only [exists_bind_eq_ok, exists_pure_eq_ok, exists_and_right, and_true,
      convertAll_ok_iff ih, convertAllAt_ok_iff ih, convertAt_ok_iff ih, convertLoop_ok_iff ih,
      Concrete.readParts, Concrete.valueless_iff, Kind.control?, reduceCtorEq, if_true, if_false,
      false_and, or_false, false_or, true_and, not_false_eq_true, List.forall_mem_append,
      List.forall_mem_map, and_assoc, Except.ok.injEq, exists_eq', List.not_mem_nil, false_implies,
      implies_true]
    case string | number => exact exists_ok_iff

/-! ## Units and sources -/

/-- The grammar trees that are read of a unit: that of its text and, if it returns at top level,
that of its text inside the wrapper. -/
inductive ReadOf (reader : SyntaxReader) (wrapper : String) (text : List Char) : Concrete → Prop
  | plain {tree : Concrete} (h : reader text = .ok tree) : ReadOf reader wrapper text tree
  | wrapped {tree : Concrete} {program : Node} (hparse : parseWith reader text 0 none = .ok program)
      (hreturn : ReturnsAtTop program) (h : reader (wrap wrapper text) = .ok tree) :
      ReadOf reader wrapper text tree

variable {reader : SyntaxReader} {wrapper : String} {text : List Char}

/-- A text that is read has no tree exactly if conversion comes to a literal without a value. -/
theorem parseWith_literal_iff {shift : Int} {wrapper : Option String} :
    (∃ e, parseWith reader text shift wrapper = .error (.literal e)) ↔
      ∃ tree, reader text = .ok tree ∧ ¬ tree.Valued .value := by
  cases hread : reader text with
  | error e => simp [parseWith, hread]
  | ok tree =>
    have hvalued : (∃ n, convert { lines := (splitLines text).toArray, shift, wrapper } .value
        false tree = .ok n) ↔ tree.Valued .value := convert_ok_iff
    simp only [Except.ok.injEq, exists_eq_left', ← hvalued, parseWith, hread]
    cases convert { lines := (splitLines text).toArray, shift, wrapper } .value false tree <;> simp

theorem buildWith_literal_iff :
    (∃ e, buildWith reader wrapper text = .error (.literal e)) ↔
      ∃ tree, ReadOf reader wrapper text tree ∧ ¬ tree.Valued .value := by
  cases hparse : parseWith reader text 0 none with
  | error cause =>
    have hfailed : (∃ e, buildWith reader wrapper text = .error (.literal e)) ↔
        ∃ e, parseWith reader text 0 none = .error (.literal e) := by
      simp only [buildWith_error hparse, hparse, Except.error.injEq]
    rw [hfailed, parseWith_literal_iff]
    refine exists_congr fun tree => and_congr_left fun _ => ⟨.plain, fun hread => ?_⟩
    cases hread with
    | plain h => exact h
    | wrapped hprogram => cases hparse.symm.trans hprogram
  | ok program =>
    -- What is read of the text alone has a tree, so its literals have values.
    have hplain : ∀ tree, reader text = .ok tree → tree.Valued .value := by
      intro tree hread
      by_contra hvalued
      obtain ⟨e, he⟩ := parseWith_literal_iff.mpr ⟨tree, hread, hvalued⟩
      cases hparse.symm.trans he
    by_cases hreturn : ReturnsAtTop program
    · have hmap : (∃ e, buildWith reader wrapper text = .error (.literal e)) ↔
          ∃ e, parseWith reader (wrap wrapper text) (-1) (some wrapper) = .error (.literal e) := by
        rw [buildWith_wrapped hparse hreturn]
        cases parseWith reader (wrap wrapper text) (-1) (some wrapper) <;> simp [Except.map]
      rw [hmap, parseWith_literal_iff]
      refine exists_congr fun tree => and_congr_left fun hvalued => ?_
      refine ⟨.wrapped hparse hreturn, fun hread => ?_⟩
      cases hread with
      | plain h => exact absurd (hplain tree h) hvalued
      | wrapped _ _ h => exact h
    · rw [buildWith_plain hparse hreturn]
      refine iff_of_false (by simp) ?_
      rintro ⟨tree, hread, hvalued⟩
      cases hread with
      | plain h => exact hvalued (hplain tree h)
      | wrapped hprogram hreturn' =>
        cases hparse.symm.trans hprogram
        exact hreturn hreturn'

end FlowLint.Script

namespace FlowLint

open Script

/-! ## Detection -/

/-- No level but an infinite one is refused. -/
theorem clampLevel_error_iff {level : Json} :
    (∃ e, clampLevel level = .error e) ↔ ∃ negative, level = .float (.infinite negative) := by
  have hclamped : (∃ e, clampLevel level = .error e) ↔ level.toInt = .error .unbounded := by
    rw [clampLevel, Json.clamped]
    cases level.toInt with
    | ok n => simp
    | error e => cases e <;> simp
  rw [hclamped]
  cases level with
  | float x => cases x <;> simp [Json.toInt]
  | string s =>
    simp only [Json.toInt]
    cases Reading.integer? 10 s.toList <;> simp
  | _ => simp [Json.toInt]

namespace Detector

variable (d : Detector)

theorem detectText_error_iff {level : Int} {text : List Char} {e : LiteralError} :
    d.detectText level text = .error e ↔
      buildWith d.reader d.profile.wrapperName text = .error (.literal e) := by
  rw [detectText]
  cases buildWith d.reader d.profile.wrapperName text with
  | ok unit => simp
  | error cause => cases cause <;> simp

/-- **Failure of detection.** Whatever reads the texts, a literal or a level makes detection fail
exactly as follows: the source is a text, not empty, and either the level is infinite or conversion
of a tree that is read of the text comes to a literal without a value.

Other failures are not modelled: that the stack is too small to go through a tree that was built,
and that a source holds code points that no text here can hold. -/
theorem detect_fails_iff {source level : Json} :
    (∃ e, d.detect source level = .error e) ↔
      ∃ text, source = .string text ∧ text ≠ "" ∧
        ((∃ negative, level = .float (.infinite negative)) ∨
          ∃ tree literal, ReadOf d.reader d.profile.wrapperName text.toList tree ∧
            Concrete.Reaches .value tree literal ∧ literal.Valueless) := by
  cases source with
  | string text =>
    simp only [Json.string.injEq, exists_eq_left']
    by_cases hempty : text = ""
    · simp [detect, hempty]
    · have hliteral : (∃ tree literal, ReadOf d.reader d.profile.wrapperName text.toList tree ∧
          Concrete.Reaches .value tree literal ∧ literal.Valueless) ↔
          ∃ e, buildWith d.reader d.profile.wrapperName text.toList = .error (.literal e) := by
        rw [buildWith_literal_iff]
        simp only [Concrete.Valued, not_forall, not_not, exists_prop, exists_and_left]
      rw [hliteral, ← clampLevel_error_iff, detect, if_neg hempty]
      cases hlevel : clampLevel level with
      | error e => simp [hempty]
      | ok n =>
        have hdetect : ∀ e,
            buildWith d.reader d.profile.wrapperName text.toList = .error (.literal e) ↔
              d.detectText n text.toList = .error e :=
          fun e => d.detectText_error_iff.symm
        simp only [hdetect]
        cases d.detectText n text.toList <;> simp [hempty]
  | _ => simp [detect]

/-- An escaped digit that is not octal is a literal without a value. -/
theorem detect_escaped_eight :
    Detector.detect { reader := Script.reader } (.string "'\\8';") (.int 2) =
      .error (.literal .notOctal) := by
  let literal : Concrete := .node .string .part ⟨⟨0, 0⟩, ⟨0, 4⟩⟩ "'\\8'" []
  let tree : Concrete :=
    .node .program .part ⟨⟨0, 0⟩, ⟨0, 5⟩⟩ ""
      [.node .expressionStatement .part ⟨⟨0, 0⟩, ⟨0, 5⟩⟩ "" [literal]]
  have hread : Script.reader "'\\8';".toList = .ok tree := by decide +kernel
  have hpieces : pieces ['\\', '8'] = [.escape ['8']] := by
    simp [pieces, sequenceLength, Text.isOctalDigit]
  have hcook : cook ['\\', '8'] = .error .notOctal := by
    rw [cook, hpieces]
    rfl
  have hparse : parseWith Script.reader "'\\8';".toList 0 none = .error (.literal .notOctal) := by
    rw [parseWith, hread]
    simp [tree, literal, convert, convertAll, Concrete.kind, hcook]
    rfl
  have hdetect : Detector.detectText { reader := Script.reader } 2 "'\\8';".toList =
      .error .notOctal := (detectText_error_iff _).mpr (buildWith_error hparse)
  have hlevel : clampLevel (.int 2) = .ok 2 := rfl
  have htext : "'\\8';" ≠ "" := by decide
  rw [detect, if_neg htext, hlevel]
  simp only [hdetect]

end Detector

end FlowLint
