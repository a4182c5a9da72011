import FlowLint.Proofs.Walk
import FlowLint.Script.Unit

/-!
# How the tree of a unit comes about

A unit is read as it stands. If a return stands outside of all functions, the tree is thrown away
and the unit is read again inside a wrapper function.

* `ReturnsAtTop` is the condition for that, and `illegalReturn?_eq_none_iff` ties it to the search
  that finds such a return.
* `buildWith_plain` and `buildWith_wrapped` say what each of the two ways yields, and
  `buildWith_cases` that there is no other way to a tree.
* `SyntaxReader.ReadsEmpty` is what a reader should make of the empty text.
-/

namespace FlowLint.Script

variable {reader : SyntaxReader} {wrapper : String} {text : List Char} {program : Node}

/-- A return stands outside of all functions of a tree. -/
def ReturnsAtTop (root : Node) : Prop :=
  ∃ argument range ancestors, (.returns argument range, ancestors) ∈ walk root [] ∧
    ∀ n ∈ ancestors, n.isFunction = false

theorem illegalReturn?_eq_none_iff {root : Node} :
    illegalReturn? root = none ↔ ¬ ReturnsAtTop root := by
  rw [illegalReturn?, Option.map_eq_none_iff, List.find?_eq_none]
  constructor
  · rintro h ⟨argument, range, ancestors, hv, houter⟩
    have hno : ancestors.any Node.isFunction = false := by
      simpa [List.any_eq_false] using houter
    simpa [hno] using h _ hv
  · rintro h ⟨n, ancestors⟩ hv htest
    cases n with
    | returns argument range =>
      have hno : ancestors.any Node.isFunction = false := by simpa using htest
      refine h ⟨argument, range, ancestors, hv, fun a ha => ?_⟩
      simpa using List.any_eq_false.mp hno a ha
    | _ => simp at htest

/-- A text has a tree if it can be read and what is read can be converted. -/
theorem parseWith_eq_ok {shift : Int} {wrapper : Option String} :
    parseWith reader text shift wrapper = .ok program ↔
      ∃ tree, reader text = .ok tree ∧
        convert { lines := (splitLines text).toArray, shift, wrapper } .value false tree =
          .ok program := by
  cases hread : reader text with
  | error e => simp [parseWith, hread]
  | ok tree =>
    simp only [parseWith, hread, Except.ok.injEq, exists_eq_left']
    cases convert { lines := (splitLines text).toArray, shift, wrapper } .value false tree <;> simp

theorem parseScriptWith_eq (hparse : parseWith reader text 0 none = .ok program) :
    parseScriptWith reader text =
      match illegalReturn? program with
      | some found => .error (.illegalReturn (if found.line = 0 then 1 else found.line))
      | none => .ok program := by
  rw [parseScriptWith, hparse]
  rfl

/-- A unit that does not return at top level is read as it stands. -/
theorem buildWith_plain (hparse : parseWith reader text 0 none = .ok program)
    (hreturn : ¬ ReturnsAtTop program) :
    buildWith reader wrapper text = .ok { program } := by
  rw [buildWith, parseScriptWith_eq hparse, illegalReturn?_eq_none_iff.mpr hreturn]

/-- A unit that returns at top level is read again inside the wrapper. -/
theorem buildWith_wrapped (hparse : parseWith reader text 0 none = .ok program)
    (hreturn : ReturnsAtTop program) :
    buildWith reader wrapper text =
      (parseWith reader (wrap wrapper text) (-1) (some wrapper)).map fun wrapped =>
        { program := wrapped, lineOffset := -1 } := by
  obtain ⟨found, hfound⟩ : ∃ found, illegalReturn? program = some found := by
    refine Option.ne_none_iff_exists'.mp fun hnone => ?_
    exact illegalReturn?_eq_none_iff.mp hnone hreturn
  rw [buildWith, parseScriptWith_eq hparse, hfound]
  cases parseWith reader (wrap wrapper text) (-1) (some wrapper) <;> rfl

/-- A unit that cannot be read as it stands has no tree. -/
theorem buildWith_error {e : BuildError} (hparse : parseWith reader text 0 none = .error e) :
    buildWith reader wrapper text = .error e := by
  have hscript : parseScriptWith reader text = .error e := by
    rw [parseScriptWith, hparse]
    rfl
  rw [buildWith, hscript]
  cases e with
  | illegalReturn line =>
    rw [parseWith] at hparse
    split at hparse
    · cases hparse
    · split at hparse <;> cases hparse
  | _ => rfl

/-- **Two ways.** A tree of a unit is the tree of its text, or that of its text inside the
wrapper. -/
theorem buildWith_cases {unit : ParsedUnit} (h : buildWith reader wrapper text = .ok unit) :
    (∃ program, parseWith reader text 0 none = .ok program ∧ ¬ ReturnsAtTop program ∧
      unit = { program }) ∨
    ∃ program wrapped, parseWith reader text 0 none = .ok program ∧ ReturnsAtTop program ∧
      parseWith reader (wrap wrapper text) (-1) (some wrapper) = .ok wrapped ∧
      unit = { program := wrapped, lineOffset := -1 } := by
  cases hparse : parseWith reader text 0 none with
  | error e => cases (buildWith_error hparse).symm.trans h
  | ok program =>
    by_cases hreturn : ReturnsAtTop program
    · rw [buildWith_wrapped hparse hreturn] at h
      cases hwrap : parseWith reader (wrap wrapper text) (-1) (some wrapper) with
      | error e => rw [hwrap] at h; cases h
      | ok wrapped =>
        rw [hwrap] at h
        exact .inr ⟨program, wrapped, rfl, hreturn, rfl, (Except.ok.inj h).symm⟩
    · rw [buildWith_plain hparse hreturn] at h
      exact .inl ⟨program, rfl, hreturn, (Except.ok.inj h).symm⟩

/-- A reader finds no statement in the empty text. -/
def SyntaxReader.ReadsEmpty (reader : SyntaxReader) : Prop :=
  ∃ span, reader [] = .ok (.node .program .part span "" [])

/-- The empty text is a program without statements. -/
theorem buildWith_empty (h : reader.ReadsEmpty) (wrapper : String) :
    ∃ range, buildWith reader wrapper [] = .ok { program := .program [] range } := by
  obtain ⟨span, hread⟩ := h
  refine ⟨Layout.range { lines := (splitLines []).toArray } span, buildWith_plain ?_ ?_⟩
  · rw [parseWith, hread]
    rfl
  · rintro ⟨argument, range, ancestors, hv, -⟩
    simp [walk, walkStack, Visit.below, Node.children] at hv

end FlowLint.Script
