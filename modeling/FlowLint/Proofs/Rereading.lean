import FlowLint.Program.Reader
import FlowLint.Proofs.Conversion
import FlowLint.Proofs.Lines
import FlowLint.Proofs.Units
import FlowLint.Proofs.Wrapper

/-!
# Reading a unit again inside a wrapper

The wrapper puts a line before the text and a line after it. What is read one row further down is
moved back by one line, so it stands where it stood.

* `splitLines_wrap`: the lines of a wrapped text.
* `convert_wraps`: a wrapper function at the start of a text becomes the synthetic function, and
  the nodes in its block are converted as they are.
* `buildWith_rereads`: a unit that returns at top level keeps its statements, to the last column.
-/

namespace FlowLint

/-- The point one row further down. -/
def Point.down (p : Point) : Point :=
  { p with row := p.row + 1 }

/-- The span one row further down. -/
def Span.down (s : Span) : Span :=
  ⟨s.start.down, s.stop.down⟩

namespace Script

/-! ## Lines -/

/-- The line that the wrapper puts before a text. -/
def wrapperLine (name : String) : List Char :=
  "function ".toList ++ name.toList ++ "() \x7b".toList

theorem wrap_eq (name : String) (text : List Char) :
    wrap name text = wrapperLine name ++ '\n' :: (text ++ '\n' :: ['}']) := by
  have hopen : "() \x7b\n".toList = "() \x7b".toList ++ ['\n'] := by decide
  have hclose : "\n\x7d".toList = ['\n', '}'] := by decide
  unfold wrap wrapperLine
  rw [hopen, hclose, ← List.append_assoc, List.append_assoc _ ['\n'],
    List.append_assoc _ _ ['\n', '}']]
  rfl

theorem not_mem_wrapperLine {name : String} (hname : '\n' ∉ name.toList) :
    '\n' ∉ wrapperLine name := by
  have hbefore : '\n' ∉ "function ".toList := by decide
  have hafter : '\n' ∉ "() \x7b".toList := by decide
  unfold wrapperLine
  rw [List.mem_append, List.mem_append]
  rintro ((h | h) | h)
  · exact hbefore h
  · exact hname h
  · exact hafter h

theorem splitLines_wrap {name : String} (hname : '\n' ∉ name.toList) (text : List Char) :
    splitLines (wrap name text) = wrapperLine name :: (splitLines text ++ [['}']]) := by
  have hclose : splitLines ['}'] = [['}']] := by decide
  rw [wrap_eq, splitLines_append, splitLines_append,
    splitLines_of_not_mem (not_mem_wrapperLine hname), hclose, List.singleton_append]

/-- The layout of a text that is read as it stands. -/
def plainLayout (text : List Char) : Layout :=
  { lines := (splitLines text).toArray }

/-- The layout of a text that is read inside the wrapper. -/
def wrappedLayout (name : String) (text : List Char) : Layout :=
  { lines := (splitLines (wrap name text)).toArray, shift := -1, wrapper := some name }

/-- A span that ends within a number of rows. -/
def Within (rows : Nat) (s : Span) : Prop :=
  s.start.row < rows ∧ s.stop.row < rows

instance (rows : Nat) (s : Span) : Decidable (Within rows s) :=
  inferInstanceAs (Decidable (_ ∧ _))

/-- One row further down in the wrapped text is the same place. -/
theorem position_down {name : String} (hname : '\n' ∉ name.toList) {text : List Char} {p : Point}
    (hp : p.row < (splitLines text).length) :
    (wrappedLayout name text).position p.down = (plainLayout text).position p := by
  have hline : (splitLines (wrap name text))[p.row + 1]? = (splitLines text)[p.row]? := by
    rw [splitLines_wrap hname, List.getElem?_cons_succ, List.getElem?_append_left hp]
  have hcolumn : column (splitLines (wrap name text)).toArray p.down =
      column (splitLines text).toArray p := by
    simp only [column, Point.down, List.getElem?_toArray, hline]
  have hrow : (p.down.row : Int) + 1 + -1 = p.row + 1 + 0 := by
    simp only [Point.down]
    omega
  simp only [Layout.position, wrappedLayout, plainLayout, hcolumn, hrow]

/-- Below the first row no wrapper starts. -/
theorem isWrapper_down (l : Layout) (atTop : Bool) (s : Span) (name : Option Node) :
    l.isWrapper atTop s.down name = false := by
  have hstart : s.down.start ≠ {} := fun h => Nat.succ_ne_zero _ (congrArg Point.row h)
  unfold Layout.isWrapper
  split
  · simp [hstart]
  · rfl

theorem agrees_down {name : String} (hname : '\n' ∉ name.toList) {text : List Char} {s : Span}
    (hs : Within (splitLines text).length s) :
    (plainLayout text).Agrees (wrappedLayout name text) Span.down s where
  range := by
    rw [Layout.range, Layout.range, Span.down, position_down hname hs.1, position_down hname hs.2]
  isWrapper atTop atTop' found := isWrapper_down _ atTop' s found

/-! ## The wrapper function -/

/-- A tree is a program of one function declaration, which starts the text, has the given name and
no parameters, and has the given nodes in its block. -/
inductive Wraps (name : String) (parts : List Concrete) : Concrete → Prop
  | intro (role functionRole : Role) (span nameSpan blockSpan : Span) (stop : Point)
      (label functionLabel blockLabel : String) :
      Wraps name parts (.node .program role span label
        [.node .functionDeclaration functionRole ⟨{}, stop⟩ functionLabel
          [.node .identifier .name nameSpan name [],
            .node .statementBlock .body blockSpan blockLabel parts]])

/-- The wrapper function becomes the synthetic one around what the nodes in its block become. -/
theorem convert_wraps {l : Layout} {name : String} {parts : List Concrete} {tree : Concrete}
    (h : Wraps name parts tree) (hl : l.wrapper = some name) :
    ∃ nameRange bodyRange functionRange range,
      convert l .value false tree = (convertAll l .value false parts).map fun statements =>
        wrappedUnit name statements nameRange bodyRange functionRange range := by
  obtain ⟨_, functionRole, span, nameSpan, blockSpan, stop, _, functionLabel, blockLabel⟩ := h
  refine ⟨l.range nameSpan, l.range blockSpan, l.range ⟨{}, stop⟩, l.range span, ?_⟩
  have hwrapper :
      l.isWrapper true ⟨{}, stop⟩ (some (.identifier name (l.range nameSpan))) = true := by
    simp [Layout.isWrapper, hl]
  let named : Concrete := .node .identifier .name nameSpan name []
  let block : Concrete := .node .statementBlock .body blockSpan blockLabel parts
  have hname : convertAt l .value .name [named, block] =
      .ok (some (.identifier name (l.range nameSpan))) := rfl
  have hparams : convertAllAt l .target .parameter [named, block] = .ok [] := rfl
  have hbody : convertAt l .value .body [named, block] =
      (convertAll l .value false parts).map fun statements =>
        some (.block statements (l.range blockSpan)) := by
    simp only [convertAt, named, block, Concrete.role, convert]
    cases convertAll l .value false parts <;> rfl
  have hfunction : convert l .value true
      (.node .functionDeclaration functionRole ⟨{}, stop⟩ functionLabel [named, block]) =
      (convertAll l .value false parts).map fun statements =>
        .function .declaration (some (.identifier name (l.range nameSpan))) []
          (some (.block statements (l.range blockSpan))) true (l.range ⟨{}, stop⟩) := by
    rw [convert, hname, hparams, hbody]
    cases convertAll l .value false parts with
    | error e => rfl
    | ok statements => exact congrArg (fun b => Except.ok (Node.function _ _ _ _ b _)) hwrapper
  rw [convert, convertAll, hfunction]
  cases convertAll l .value false parts <;> rfl

/-- A unit that is read inside the wrapper has the statements that the block of the wrapper has. -/
theorem buildWith_wraps {reader : SyntaxReader} {name : String} {text : List Char}
    {program : Node} {tree : Concrete} {parts : List Concrete} {statements : List Node}
    (hparse : parseWith reader text 0 none = .ok program) (hreturn : ReturnsAtTop program)
    (hreread : reader (wrap name text) = .ok tree) (hwraps : Wraps name parts tree)
    (hparts : convertAll (wrappedLayout name text) .value false parts = .ok statements) :
    ∃ nameRange bodyRange functionRange range,
      buildWith reader name text =
        .ok { program := wrappedUnit name statements nameRange bodyRange functionRange range,
              lineOffset := -1 } := by
  obtain ⟨nameRange, bodyRange, functionRange, range, hconvert⟩ :=
    convert_wraps (l := wrappedLayout name text) hwraps rfl
  rw [hparts] at hconvert
  refine ⟨nameRange, bodyRange, functionRange, range, ?_⟩
  rw [buildWith_wrapped hparse hreturn, parseWith_eq_ok.mpr ⟨tree, hreread, hconvert⟩]
  rfl

/-- Statements that hold no synthetic function hold one inside the wrapper. -/
theorem synthetic_wrappedUnit {name : String} {statements : List Node}
    {nameRange bodyRange functionRange range : SourceRange}
    (h : ∀ n ∈ nodesOf statements, n.isSynthetic = false) :
    (nodesOf [wrappedUnit name statements nameRange bodyRange functionRange range]).filter
        Node.isSynthetic =
      [.function .declaration (some (.identifier name nameRange)) []
        (some (.block statements bodyRange)) true functionRange] := by
  have hnone : (nodesOf statements).filter Node.isSynthetic = [] :=
    List.filter_eq_nil_iff.mpr fun n hn => Bool.eq_false_iff.mp (h n hn)
  rw [nodesOf_wrappedUnit]
  simp only [List.filter_cons, hnone]
  rfl

/-! ## Statements keep their place -/

/-- What is read one row further down inside the wrapper is converted to the same nodes. -/
theorem convertAll_wrapped {name : String} (hname : '\n' ∉ name.toList) {text : List Char}
    {parts : List Concrete}
    (hwithin : ∀ s ∈ Concrete.spansAll parts, Within (splitLines text).length s) :
    convertAll (wrappedLayout name text) .value false (parts.map (·.mapSpan Span.down)) =
      convertAll (plainLayout text) .value true parts := by
  refine convertAll_mapSpan (fun c hc => convert_mapSpan fun s hs => ?_) .value true false
  exact agrees_down hname (hwithin s (Concrete.mem_spansAll.mpr ⟨c, hc, hs⟩))

/-- No synthetic function comes from a text that is read as it stands. -/
theorem not_isSynthetic_of_convertAll {l : Layout} (hl : l.wrapper = none) {mode : Mode}
    {atTop : Bool} {cs : List Concrete} {ns : List Node}
    (h : convertAll l mode atTop cs = .ok ns) : ∀ n ∈ nodesOf ns, n.isSynthetic = false := by
  intro n hn
  obtain ⟨root, hroot, hn⟩ := mem_nodesOf.mp hn
  obtain ⟨c, -, hmade⟩ := made_of_convertAll h root hroot
  have hplaced := Node.Placed.of_made hmade placed_convert n <| by
    rwa [nodesOf_cons, List.append_nil, List.mem_cons]
  exact hplaced.2.resolve_right fun hne => hne hl

/-- **Rereading.** Let a unit be read to a program that returns at top level, with all that is read
standing on the lines of the text. If inside the wrapper the same is read one row further down,
then the unit becomes a program of one synthetic function with the very statements that the text
has without the wrapper, and no other function in it is synthetic. -/
theorem buildWith_rereads {reader : SyntaxReader} {name : String} {text : List Char} {role : Role}
    {span : Span} {label : String} {parts : List Concrete} {tree : Concrete}
    {statements : List Node} {range : SourceRange}
    (hname : '\n' ∉ name.toList)
    (hread : reader text = .ok (.node .program role span label parts))
    (hwithin : ∀ s ∈ Concrete.spansAll parts, Within (splitLines text).length s)
    (hparse : parseWith reader text 0 none = .ok (.program statements range))
    (hreturn : ReturnsAtTop (.program statements range))
    (hreread : reader (wrap name text) = .ok tree)
    (hwraps : Wraps name (parts.map (·.mapSpan Span.down)) tree) :
    ∃ nameRange bodyRange functionRange range',
      let wrapper := Node.function .declaration (some (.identifier name nameRange)) []
        (some (.block statements bodyRange)) true functionRange
      buildWith reader name text =
          .ok { program := .program [wrapper] range', lineOffset := -1 } ∧
        (nodesOf [.program [wrapper] range']).filter Node.isSynthetic = [wrapper] := by
  have hplain : convertAll (plainLayout text) .value true parts = .ok statements := by
    obtain ⟨tree, htree, hconvert⟩ := parseWith_eq_ok.mp hparse
    cases hread.symm.trans htree
    obtain ⟨ns, hns, hprogram⟩ := bind_eq_ok.mp hconvert
    cases hprogram
    exact hns
  obtain ⟨nameRange, bodyRange, functionRange, range', hbuild⟩ :=
    buildWith_wraps hparse hreturn hreread hwraps ((convertAll_wrapped hname hwithin).trans hplain)
  exact ⟨nameRange, bodyRange, functionRange, range', hbuild,
    synthetic_wrappedUnit (not_isSynthetic_of_convertAll rfl hplain)⟩

/-- The second statement of this unit is a function that is named like the wrapper. -/
theorem buildWith_rereads_namesake :
    let text := "return;\nfunction w()\x7b\x7d".toList
    let statements : List Node :=
      [.returns none (.ofLines 1 1 1 8),
        .function .declaration (some (.identifier "w" (.ofLines 2 10 2 11))) []
          (some (.block [] (.ofLines 2 13 2 15))) false (.ofLines 2 1 2 15)]
    parseWith reader text 0 none = .ok (.program statements (.ofLines 1 1 2 15)) ∧
    ∃ nameRange bodyRange functionRange range,
      let wrapper := Node.function .declaration (some (.identifier "w" nameRange)) []
        (some (.block statements bodyRange)) true functionRange
      buildWith reader "w" text = .ok { program := .program [wrapper] range, lineOffset := -1 } ∧
        (nodesOf [.program [wrapper] range]).filter Node.isSynthetic = [wrapper] := by
  intro text statements
  let parts : List Concrete :=
    [.node .returnStatement .part ⟨⟨0, 0⟩, ⟨0, 7⟩⟩ "" [],
      .node .functionDeclaration .part ⟨⟨1, 0⟩, ⟨1, 14⟩⟩ ""
        [.node .identifier .name ⟨⟨1, 9⟩, ⟨1, 10⟩⟩ "w" [],
          .node .statementBlock .body ⟨⟨1, 12⟩, ⟨1, 14⟩⟩ "" []]]
  have hread : reader text = .ok (.node .program .part ⟨⟨0, 0⟩, ⟨1, 14⟩⟩ "" parts) := by
    decide +kernel
  have hreread : reader (wrap "w" text) =
      .ok (.node .program .part ⟨⟨0, 0⟩, ⟨3, 1⟩⟩ ""
        [.node .functionDeclaration .part ⟨⟨0, 0⟩, ⟨3, 1⟩⟩ ""
          [.node .identifier .name ⟨⟨0, 9⟩, ⟨0, 10⟩⟩ "w" [],
            .node .statementBlock .body ⟨⟨0, 13⟩, ⟨3, 1⟩⟩ ""
              (parts.map (·.mapSpan Span.down))]]) := by
    decide +kernel
  have hwithin : ∀ s ∈ Concrete.spansAll parts, Within (splitLines text).length s := by
    decide +kernel
  have hparse : parseWith reader text 0 none = .ok (.program statements (.ofLines 1 1 2 15)) :=
    parseWith_eq_ok.mpr ⟨_, hread, rfl⟩
  have hreturn : ReturnsAtTop (.program statements (.ofLines 1 1 2 15)) := by
    refine ⟨none, .ofLines 1 1 1 8, [.program statements (.ofLines 1 1 2 15)], ?_, ?_⟩
    · simp [walk, walkStack, Visit.below, Node.children, statements]
    · simp [Node.isFunction]
  exact ⟨hparse, buildWith_rereads (by decide) hread hwithin hparse hreturn hreread
    (Wraps.intro ..)⟩

end Script

end FlowLint
