import FlowLint.Proofs.Rereading
import FlowLint.Proofs.Rules

/-!
# Where findings stand

A finding stands where a node stands, or on lines that the rules on lines count by themselves. In
both cases it stands in the text of the unit, also if the unit is read inside a wrapper.

* `exists_node_of_mem_nodeFindings` and `exists_identifier_of_mem_unusedBindings`: the nodes at
  which the rules on trees make their findings.
* `Layout.range_liesIn`: a span on the rows of a text becomes a range in it.
* `liesIn_of_blankRun`, `liesIn_of_commentedOut` and `liesIn_of_todo`: the rules on lines.
* `detect_liesIn`: every finding stands in the text.
-/

namespace FlowLint

open Script Scoping

/-! ## Places in a text -/

/-- A position on one of the lines of a text, at one of its characters or right after the last. -/
def Position.LiesIn (lines : List Line) (p : Position) : Prop :=
  ∃ (k : Nat) (line : Line), lines[k]? = some line ∧ p.line = k + 1 ∧
    1 ≤ p.column ∧ p.column ≤ line.length + 1

/-- A range between two positions in a text, the first of which does not come after the second. -/
structure SourceRange.LiesIn (lines : List Line) (r : SourceRange) : Prop where
  start : r.start.LiesIn lines
  stop : r.stop.LiesIn lines
  ordered : r.start.line < r.stop.line ∨
    r.start.line = r.stop.line ∧ r.start.column ≤ r.stop.column

/-- A span on the rows from `first` on and before `past` that does not end before it starts. -/
structure Span.OnRows (first past : Nat) (s : Span) : Prop where
  ordered : s.start.row < s.stop.row ∨ s.start.row = s.stop.row ∧ s.start.byte ≤ s.stop.byte
  first_le : first ≤ s.start.row
  lt_past : s.stop.row < past

instance (first past : Nat) (s : Span) : Decidable (s.OnRows first past) :=
  decidable_of_iff
    ((s.start.row < s.stop.row ∨ s.start.row = s.stop.row ∧ s.start.byte ≤ s.stop.byte) ∧
      first ≤ s.start.row ∧ s.stop.row < past)
    ⟨fun ⟨h, h', h''⟩ => ⟨h, h', h''⟩, fun ⟨h, h', h''⟩ => ⟨h, h', h''⟩⟩

theorem Span.OnRows.start_le_stop {first past : Nat} {s : Span} (h : s.OnRows first past) :
    s.start.row ≤ s.stop.row := by
  rcases h.ordered with h | h <;> omega

section Layouts

variable {text : List Char} {s : Span}

theorem position_eq {p : Point} {line : Line} (hline : (splitLines text)[p.row]? = some line) :
    (plainLayout text).position p = ⟨p.row + 1, charsWithin line p.byte + 1⟩ := by
  have hcolumn : column (splitLines text).toArray p = charsWithin line p.byte + 1 := by
    simp only [column, List.getElem?_toArray, hline]
  simp only [Layout.position, plainLayout, hcolumn, Int.add_zero]
  rfl

theorem position_liesIn {p : Point} {line : Line} (hline : (splitLines text)[p.row]? = some line) :
    ((plainLayout text).position p).LiesIn (splitLines text) := by
  have hle := charsWithin_le line p.byte
  rw [position_eq hline]
  refine ⟨p.row, line, hline, rfl, ?_, ?_⟩
  · show (1 : Int) ≤ charsWithin line p.byte + 1
    omega
  · show (charsWithin line p.byte : Int) + 1 ≤ line.length + 1
    omega

/-- A span on the rows of a text becomes a range in it. -/
theorem Layout.range_liesIn (h : s.OnRows 0 (splitLines text).length) :
    ((plainLayout text).range s).LiesIn (splitLines text) := by
  have hstart : s.start.row < (splitLines text).length :=
    Nat.lt_of_le_of_lt h.start_le_stop h.lt_past
  obtain ⟨line, hline⟩ : ∃ line, (splitLines text)[s.start.row]? = some line :=
    ⟨_, List.getElem?_eq_getElem hstart⟩
  obtain ⟨line', hline'⟩ : ∃ line, (splitLines text)[s.stop.row]? = some line :=
    ⟨_, List.getElem?_eq_getElem h.lt_past⟩
  refine ⟨position_liesIn hline, position_liesIn hline', ?_⟩
  rw [Layout.range, position_eq hline, position_eq hline']
  rcases h.ordered with hrow | ⟨hrow, hbyte⟩
  · left
    show (s.start.row : Int) + 1 < s.stop.row + 1
    omega
  · right
    rw [hrow, hline'] at hline
    cases hline
    have hmono := charsWithin_mono line hbyte
    constructor
    · show (s.start.row : Int) + 1 = s.stop.row + 1
      omega
    · show (charsWithin line s.start.byte : Int) + 1 ≤ charsWithin line s.stop.byte + 1
      omega

/-- Inside the wrapper the text starts one row further down. -/
theorem Layout.range_liesIn_of_wrapped {name : String} (hname : '\n' ∉ name.toList)
    (h : s.OnRows 1 ((splitLines text).length + 1)) :
    ((wrappedLayout name text).range s).LiesIn (splitLines text) := by
  let up (p : Point) : Point := { p with row := p.row - 1 }
  have hle := h.start_le_stop
  have hfirst := h.first_le
  have hdown (p : Point) (hp : 1 ≤ p.row) : p = (up p).down := by
    simp only [Point.down, up, Nat.sub_add_cancel hp]
  have hs : s = Span.down ⟨up s.start, up s.stop⟩ := by
    rw [Span.down, ← hdown s.start hfirst, ← hdown s.stop (Nat.le_trans hfirst hle)]
  have hup : Span.OnRows 0 (splitLines text).length ⟨up s.start, up s.stop⟩ := by
    obtain ⟨hordered, -, hpast⟩ := h
    refine ⟨?_, Nat.zero_le _, ?_⟩
    · rcases hordered with hrow | ⟨hrow, hbyte⟩
      · exact .inl (Nat.sub_lt_sub_right hfirst hrow)
      · exact .inr ⟨congrArg (· - 1) hrow, hbyte⟩
    · show s.stop.row - 1 < _
      omega
  have hwithin : Within (splitLines text).length ⟨up s.start, up s.stop⟩ :=
    ⟨Nat.lt_of_le_of_lt hup.start_le_stop hup.lt_past, hup.lt_past⟩
  rw [hs, (agrees_down hname hwithin).range]
  exact Layout.range_liesIn hup

end Layouts

/-! ## Rules on trees -/

/-- The nodes at which the rules on nodes make findings. -/
def Script.Node.isReportable : Node → Bool
  | .returns .. | .debugger .. | .call .. | .literal .. => true
  | _ => false

section Nodes

variable {profile : HostProfile} {program : Node} {v : Visit} {i : Issue}

theorem range_of_returnRemarks (h : .finding i ∈ returnRemarks v) :
    v.1.isReportable = true ∧ i.range = v.1.range := by
  unfold returnRemarks at h
  split at h
  case h_1 range hn =>
    rw [hn]
    split at h <;> cases List.mem_singleton.mp h
    exact ⟨rfl, rfl⟩
  case h_2 => cases h

theorem isReportable_of_methodCall? {n : Node} {names : String × String}
    (h : methodCall? n = some names) : n.isReportable = true := by
  unfold methodCall? at h
  split at h
  · rfl
  · cases h

theorem range_of_outputRemarks (h : .finding i ∈ outputRemarks profile v) :
    v.1.isReportable = true ∧ i.range = v.1.range := by
  unfold outputRemarks at h
  split at h
  case h_1 range hn =>
    rw [hn]
    cases List.mem_singleton.mp h
    exact ⟨rfl, rfl⟩
  case h_2 owner method hcall _ =>
    refine ⟨isReportable_of_methodCall? hcall, ?_⟩
    split at h
    · cases List.mem_singleton.mp h
      rfl
    · split at h
      · cases List.mem_singleton.mp h
        rfl
      · cases h
  case h_3 => cases h

theorem mem_children_of_storedValue? {n value : Node} (h : storedValue? n = some value) :
    value ∈ n.children := by
  cases n <;> simp_all [storedValue?, Node.children]

theorem range_of_placeholderRemarks (h : .finding i ∈ placeholderRemarks v) :
    ∃ n ∈ v.1.children, n.isReportable = true ∧ i.range = n.range := by
  unfold placeholderRemarks at h
  split at h
  case h_1 value raw range hstored =>
    split at h
    · cases List.mem_singleton.mp h
      exact ⟨_, mem_children_of_storedValue? hstored, rfl, rfl⟩
    · cases h
  case h_2 => cases h

/-- A finding on a node stands where a node of a few forms stands. -/
theorem exists_node_of_mem_nodeFindings (hi : i ∈ nodeFindings profile program) :
    ∃ n ∈ nodesOf [program], n.isReportable = true ∧ i.range = n.range := by
  obtain ⟨rule, hrule, v, hv, h⟩ := mem_nodeFindings.mp hi
  have hmem : v.1 ∈ nodesOf [program] := by
    rw [← nodes_walk]
    exact List.mem_map_of_mem hv
  cases rule with
  | topLevelReturn => exact ⟨v.1, hmem, range_of_returnRemarks h⟩
  | debugOutput => exact ⟨v.1, hmem, range_of_outputRemarks h⟩
  | placeholderValue =>
    obtain ⟨n, hn, hrange⟩ := range_of_placeholderRemarks h
    exact ⟨n, mem_nodesOf_of_child hmem hn, hrange⟩
  | _ => cases h

end Nodes

theorem Scoping.Sees.mem_nodesOf {role role' : Role} {n m : Node} {path : Path}
    {scopes : List Path} (h : Sees role n path scopes role' m) : m ∈ nodesOf [n] := by
  induction h with
  | here => exact mem_nodesOf_singleton.mpr (.inl rfl)
  | outside hl _ ih =>
    exact mem_nodesOf_singleton.mpr (.inr ⟨_, mem_children_of_mem_looksOutside hl, ih⟩)
  | inside hl _ ih =>
    exact mem_nodesOf_singleton.mpr (.inr ⟨_, mem_children_of_mem_looksInside hl, ih⟩)

/-- What declares a name is an identifier of the tree. -/
theorem Scoping.Declares.mem_nodesOf {root : Node} {site scope : Path} {b : Binding}
    (h : Declares root site scope b) : .identifier b.name b.range ∈ nodesOf [root] := by
  cases h with
  | target h => exact h.mem_nodesOf
  | function h => exact mem_nodesOf_of_child h.mem_nodesOf (by simp [Node.children])
  | ownName h => exact mem_nodesOf_of_child h.mem_nodesOf (by simp [Node.children])
  | classNode h => exact mem_nodesOf_of_child h.mem_nodesOf (by simp [Node.children])

/-- An unused binding stands where its identifier stands. -/
theorem exists_identifier_of_mem_unusedBindings {e : Exemption} {program : Node} {b : Binding}
    (h : b ∈ unusedBindings e program) : .identifier b.name b.range ∈ nodesOf [program] := by
  have hunused : b ∈ (usage e .use program).unused := (List.mergeSort_perm _ _).mem_iff.mp h
  obtain ⟨d, hd, rfl⟩ := List.mem_map.mp ((summary e .use program).unused.mem_iff.mp hunused)
  obtain ⟨hd, hreported⟩ := List.mem_filter.mp hd
  obtain ⟨path, scopes, item⟩ := d
  obtain ⟨scope, hscope, -⟩ := reported_iff.mp hreported
  obtain ⟨scopes, rfl⟩ := List.head?_eq_some_iff.mp hscope
  exact (declares_iff.mpr ⟨scopes, hd⟩).mem_nodesOf

/-! ## Rules on lines -/

section Lines

variable {suppression : Suppression} {lines : List Line} {i : Issue}

theorem Position.liesIn_of_number {number : Nat} {line : Line} {column : Int} (hnumber : 1 ≤ number)
    (hline : lines[number - 1]? = some line) (hlow : 1 ≤ column)
    (hhigh : column ≤ line.length + 1) : Position.LiesIn lines ⟨number, column⟩ := by
  refine ⟨number - 1, line, hline, ?_, hlow, hhigh⟩
  show (number : Int) = (number - 1 : Nat) + 1
  omega

theorem exists_line {number : Nat} (hlow : 1 ≤ number) (hhigh : number < 1 + lines.length) :
    ∃ line, lines[number - 1]? = some line :=
  ⟨_, List.getElem?_eq_getElem (show number - 1 < lines.length by omega)⟩

theorem liesIn_of_blankRun (h : .finding i ∈ blankRunRemarks suppression lines) :
    i.range.LiesIn lines := by
  obtain ⟨r, hr, he⟩ := List.mem_map.mp h
  cases he
  have hrun := (List.mem_filter.mp hr).1
  have hle := le_of_mem_blankRuns hrun
  obtain ⟨hlow, hhigh⟩ := bounds_of_mem_blankRunsFrom r (List.mem_filter.mp hrun).1
  obtain ⟨line, hline⟩ := exists_line hlow (Nat.lt_of_le_of_lt hle hhigh)
  obtain ⟨line', hline'⟩ := exists_line (Nat.le_trans hlow hle) hhigh
  refine ⟨?_, ?_, ?_⟩
  · exact Position.liesIn_of_number hlow hline (Int.le_refl 1) (by omega)
  · exact Position.liesIn_of_number (Nat.le_trans hlow hle) hline' (Int.le_refl 1) (by omega)
  · show (r.1 : Int) < r.2 ∨ (r.1 : Int) = r.2 ∧ (1 : Int) ≤ 1
    omega

theorem liesIn_of_commentedOut {marker : String}
    (h : .finding i ∈ commentedOutRemarks suppression marker lines) : i.range.LiesIn lines := by
  obtain ⟨numbers, hnumbers, h⟩ := List.mem_flatMap.mp h
  obtain ⟨hlow, hincreasing⟩ := increasing_of_mem_segments numbers hnumbers
  have hhigh := lt_of_mem_segments numbers hnumbers
  obtain ⟨first, hfirst, last, hlast, hlt, hrange⟩ := range_of_commentedOutRemark hincreasing h
  obtain ⟨line, hline⟩ := exists_line (hlow first hfirst) (hhigh first hfirst)
  obtain ⟨line', hline'⟩ := exists_line (hlow last hlast) (hhigh last hlast)
  rw [hrange, hline', Option.getD_some]
  refine ⟨?_, ?_, .inl (Int.ofNat_lt.mpr hlt)⟩
  · exact Position.liesIn_of_number (hlow first hfirst) hline (Int.le_refl 1) (by omega)
  · exact Position.liesIn_of_number (hlow last hlast) hline' (by omega) (Int.le_refl _)

theorem liesIn_of_todo (h : .finding i ∈ todoRemarks 1 lines) : i.range.LiesIn lines := by
  obtain ⟨k, line, hline, h⟩ := exists_line_of_todoRemarks h
  unfold todoRemark at h
  split at h
  case h_2 => cases h
  case h_1 column word hmarker =>
    obtain ⟨hlow, hhigh⟩ := firstMarker?_bounds hmarker
    cases List.mem_singleton.mp h
    have hnumber : lines[1 + k - 1]? = some line := by
      rwa [Nat.add_sub_cancel_left]
    refine ⟨?_, ?_, .inr ⟨rfl, ?_⟩⟩
    · exact Position.liesIn_of_number (Nat.le_add_right 1 k) hnumber (by omega) (by omega)
    · exact Position.liesIn_of_number (Nat.le_add_right 1 k) hnumber (by omega) (Int.le_refl _)
    · show (column : Int) ≤ line.length + 1
      omega

end Lines

/-! ## Trees of units -/

section Units

variable {ctx : Context}

/-- All findings of a context stand in its text if those on its tree do. -/
theorem liesIn_of_mem_findings
    (hnodes : ∀ i ∈ nodeFindings ctx.profile ctx.program, i.range.LiesIn ctx.lines)
    (hbindings : ∀ e, ∀ b ∈ unusedBindings e ctx.program, b.range.LiesIn ctx.lines) :
    ∀ i ∈ findings ctx, i.range.LiesIn ctx.lines := by
  intro i hi
  rcases List.mem_append.mp hi with hi | hi
  · exact hnodes i hi
  obtain ⟨rule, hrule, hi⟩ := List.mem_flatMap.mp hi
  have h := mem_found.mp hi
  cases rule with
  | unusedDeclaration =>
    obtain ⟨b, hb, he⟩ := List.mem_map.mp h
    cases he
    exact hbindings _ b hb
  | blankRun => exact liesIn_of_blankRun h
  | commentedOutCode => exact liesIn_of_commentedOut h
  | todoComment => exact liesIn_of_todo h
  | _ => exact absurd hrule (by decide)

/-- In a tree all of whose nodes stand in the text, all findings do. -/
theorem liesIn_of_nodes (h : ∀ n ∈ nodesOf [ctx.program], n.range.LiesIn ctx.lines) :
    ∀ i ∈ findings ctx, i.range.LiesIn ctx.lines := by
  refine liesIn_of_mem_findings (fun i hi => ?_) fun e b hb => ?_
  · obtain ⟨n, hn, -, hrange⟩ := exists_node_of_mem_nodeFindings hi
    rw [hrange]
    exact h n hn
  · exact h _ (exists_identifier_of_mem_unusedBindings hb)

/-- The wrapper need not stand in the text: nothing is found on it. -/
theorem liesIn_of_wrapped {name : String} {statements : List Node}
    {nameRange bodyRange functionRange range : SourceRange}
    (hprogram : ctx.program =
      wrappedUnit name statements nameRange bodyRange functionRange range)
    (h : ∀ n ∈ nodesOf statements, n.range.LiesIn ctx.lines) :
    ∀ i ∈ findings ctx, i.range.LiesIn ctx.lines := by
  refine liesIn_of_mem_findings (fun i hi => ?_) fun e b hb => ?_
  · obtain ⟨n, hn, hreportable, hrange⟩ := exists_node_of_mem_nodeFindings hi
    rw [hrange]
    refine h n ?_
    rw [hprogram, nodesOf_wrappedUnit] at hn
    simp only [List.mem_cons] at hn
    rcases hn with rfl | rfl | rfl | rfl | hn
    · cases hreportable
    · cases hreportable
    · cases hreportable
    · cases hreportable
    · exact hn
  · rw [hprogram, unusedBindings_wrapped _ _ _ _ _ _ range] at hb
    have hidentifier := exists_identifier_of_mem_unusedBindings hb
    rw [nodesOf_cons, Node.children, List.append_nil] at hidentifier
    rcases List.mem_cons.mp hidentifier with he | hmem
    · cases he
    · exact h _ hmem

end Units

/-! ## Texts -/

/-- Of a text, all that is read stands on its rows. Of the text inside the wrapper, if it is read
at all, the wrapper is read, and what is read in its block stands on the rows of the text. -/
structure Located (reader : SyntaxReader) (name : String) (text : List Char) : Prop where
  plain : ∀ tree, reader text = .ok tree →
    ∀ s ∈ tree.spans, s.OnRows 0 (splitLines text).length
  wrapped : ∀ program tree, parseWith reader text 0 none = .ok program → ReturnsAtTop program →
    reader (wrap name text) = .ok tree →
    ∃ parts, Wraps name parts tree ∧
      ∀ s ∈ Concrete.spansAll parts, s.OnRows 1 ((splitLines text).length + 1)

/-- The nodes that a converted construct has stand where its spans stand. -/
theorem liesIn_of_convertAll {l : Layout} {mode : Mode} {atTop : Bool} {parts : List Concrete}
    {ns : List Node} {lines : List Line} (h : convertAll l mode atTop parts = .ok ns)
    (hspans : ∀ s ∈ Concrete.spansAll parts, (l.range s).LiesIn lines) :
    ∀ n ∈ nodesOf ns, n.range.LiesIn lines := by
  intro n hn
  obtain ⟨root, hroot, hn⟩ := mem_nodesOf.mp hn
  obtain ⟨c, hc, hmade⟩ := made_of_convertAll h root hroot
  obtain ⟨⟨s, hs, hrange⟩, -⟩ := Node.Placed.of_made hmade placed_convert n <| by
    rwa [nodesOf_cons, List.append_nil, List.mem_cons]
  rw [hrange]
  exact hspans s (Concrete.mem_spansAll.mpr ⟨c, hc, hs⟩)

/-- All findings on the tree of a unit stand in its text. -/
theorem liesIn_of_build {reader : SyntaxReader} {text : List Char} {unit : ParsedUnit}
    {profile : HostProfile} {level : Int} (hname : '\n' ∉ profile.wrapperName.toList)
    (h : Located reader profile.wrapperName text)
    (hunit : buildWith reader profile.wrapperName text = .ok unit) :
    ∀ i ∈ findings (contextFor profile level text unit.program),
      i.range.LiesIn (splitLines text) := by
  rcases buildWith_cases hunit with ⟨program, hparse, -, rfl⟩ |
    ⟨program, wrapped, hparse, hreturn, hwrapped, rfl⟩
  · obtain ⟨tree, htree, hconvert⟩ := parseWith_eq_ok.mp hparse
    refine liesIn_of_nodes fun n hn => ?_
    obtain ⟨⟨s, hs, hrange⟩, -⟩ := placed_convert hconvert n hn
    rw [hrange]
    exact Layout.range_liesIn (h.plain tree htree s hs)
  · obtain ⟨tree, htree, hconvert⟩ := parseWith_eq_ok.mp hwrapped
    obtain ⟨parts, hwraps, hspans⟩ := h.wrapped program tree hparse hreturn htree
    obtain ⟨nameRange, bodyRange, functionRange, range, hunit⟩ :=
      convert_wraps (l := wrappedLayout profile.wrapperName text) hwraps rfl
    cases hparts : convertAll (wrappedLayout profile.wrapperName text) .value false parts with
    | error e =>
      rw [hparts] at hunit
      cases hunit.symm.trans hconvert
    | ok statements =>
      rw [hparts] at hunit
      cases hunit.symm.trans hconvert
      refine liesIn_of_wrapped rfl (liesIn_of_convertAll hparts fun s hs => ?_)
      exact Layout.range_liesIn_of_wrapped hname (hspans s hs)

/-- **Positions.** If all that is read stands where the text stands, then so does every finding in
a source, at every level: on lines of the text, within them or right after their last character,
and not ending before it starts. -/
theorem detect_liesIn {reader : SyntaxReader} {source level : Json} {found : Detection}
    (hread : ∀ text, source = .string text → Located reader defaultWrapper text.toList)
    (hfound : Detector.detect { reader } source level = .ok found) :
    ∀ i ∈ found.issues, ∃ text, source = .string text ∧
      i.range.LiesIn (splitLines text.toList) := by
  intro i hi
  cases source with
  | string text =>
    obtain ⟨n, unit, hbuild, hi⟩ := Detector.exists_unit_of_mem_issues _ hfound hi
    rw [detectIn_eq] at hi
    have hname : '\n' ∉ ({} : HostProfile).wrapperName.toList := by decide
    exact ⟨text, rfl, liesIn_of_build hname (hread text rfl) hbuild i (List.mem_of_mem_filter hi)⟩
  | _ =>
    cases hfound
    cases hi

/-- In this text, which is read inside the wrapper, the second finding ends at the end. -/
theorem detect_liesIn_last_line :
    let text := "return;\ndebugger"
    Located reader defaultWrapper text.toList ∧
      ∃ found, Detector.detect { reader } (.string text) (.int 2) = .ok found ∧
        found.issues.map Issue.range = [.ofLines 1 1 1 8, .ofLines 2 1 2 9] ∧
        ∀ i ∈ found.issues, ∃ text', Json.string text = .string text' ∧
          i.range.LiesIn (splitLines text'.toList) := by
  intro text
  have hread : reader text.toList =
      .ok (.node .program .part ⟨⟨0, 0⟩, ⟨1, 8⟩⟩ ""
        [.node .returnStatement .part ⟨⟨0, 0⟩, ⟨0, 7⟩⟩ "" [],
          .node .debuggerStatement .part ⟨⟨1, 0⟩, ⟨1, 8⟩⟩ "" []]) := by
    decide +kernel
  have hreread : reader (wrap defaultWrapper text.toList) =
      .ok (.node .program .part ⟨⟨0, 0⟩, ⟨3, 1⟩⟩ ""
        [.node .functionDeclaration .part ⟨⟨0, 0⟩, ⟨3, 1⟩⟩ ""
          [.node .identifier .name ⟨⟨0, 9⟩, ⟨0, 23⟩⟩ defaultWrapper [],
            .node .statementBlock .body ⟨⟨0, 26⟩, ⟨3, 1⟩⟩ ""
              [.node .returnStatement .part ⟨⟨1, 0⟩, ⟨1, 7⟩⟩ "" [],
                .node .debuggerStatement .part ⟨⟨2, 0⟩, ⟨2, 8⟩⟩ "" []]]]) := by
    decide +kernel
  have hlocated : Located reader defaultWrapper text.toList := by
    constructor
    · intro tree htree
      cases hread.symm.trans htree
      decide +kernel
    · intro program tree _ _ htree
      cases hreread.symm.trans htree
      exact ⟨_, Wraps.intro .., by decide +kernel⟩
  have hranges : (Detector.detect { reader } (.string text) (.int 2)).toOption.map
      (·.issues.map Issue.range) = some [.ofLines 1 1 1 8, .ofLines 2 1 2 9] := by decide +kernel
  refine ⟨hlocated, ?_⟩
  cases hfound : Detector.detect { reader } (.string text) (.int 2) with
  | error e =>
    rw [hfound] at hranges
    cases hranges
  | ok found =>
    rw [hfound] at hranges
    refine ⟨found, rfl, Option.some.inj hranges, detect_liesIn (fun text' h => ?_) hfound⟩
    cases h
    exact hlocated

end FlowLint
