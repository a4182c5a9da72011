import FlowLint.Proofs.Conversion
import FlowLint.Proofs.Rereading
import FlowLint.Proofs.Rules
import FlowLint.Proofs.Wrapper

/-!
# Which returns end the unit

Two searches ask whether a return stands at top level. One decides whether the unit is read again
inside a wrapper, and looks for any function around the return. The other decides whether the
return is reported, and goes outward up to the first function or program.

* `AreStatements`: trees as they stand below a program. `areStatements_of_parseWith`: those of a
  text that is read as it stands are.
* `endsUnit` says it in terms of all ancestors at once, and `standing_append_iff` that going
  outward comes to the same.
* `found_below`: the returns that are found below a place that always runs.
* `topLevelReturn_exact`: what is reported in a unit that need not be wrapped, which is nothing,
  and in one that is.
-/

namespace FlowLint

open Script Scoping

/-! ## Statements -/

/-- Is a node a program? -/
def Script.Node.isProgram : Node → Bool
  | .program .. => true
  | _ => false

/-- Trees of statements: none of their nodes is synthetic, and none is a program, which is a root
and stands nowhere below one. -/
structure AreStatements (trees : List Node) : Prop where
  notSynthetic : ∀ m ∈ nodesOf trees, m.isSynthetic = false
  notProgram : ∀ m ∈ nodesOf trees, m.isProgram = false

section

variable {l : Layout} {mode : Mode} {atTop : Bool}

/-- None of the grammar nodes is a program, neither this one nor one below it. -/
inductive Script.Concrete.ProgramFree : Concrete → Prop
  | node {kind : Kind} {role : Role} {span : Span} {text : String} {cs : List Concrete}
      (hkind : kind ≠ .program) (hcs : ∀ c ∈ cs, ProgramFree c) :
      ProgramFree (.node kind role span text cs)

/-- Parentheses around one part leave no node of their own. Any other construct that is no program
becomes a node that is none. -/
theorem part_or_not_isProgram {c : Concrete} {n : Node} (h : convert l mode atTop c = .ok n)
    (hc : c.kind ≠ .program) : (∃ d ∈ c.children, Made l d n) ∨ n.isProgram = false := by
  obtain ⟨kind, role, span, text, cs⟩ := c
  rw [convert.eq_def] at h
  cases kind
  case program => exact absurd rfl hc
  case parenthesized =>
    obtain ⟨parts, hparts, h⟩ := bind_eq_ok.mp h
    split at h
    · cases h
      exact .inl (made_of_convertAll hparts _ (List.mem_singleton_self _))
    · cases h
      exact .inr rfl
  all_goals refine .inr ?_
  -- Patterns, which are expressions unless they are targets.
  case shorthandPropertyPattern | objectPattern | arrayPattern | restPattern | pairPattern |
      assignmentPattern | objectAssignmentPattern =>
    dsimp only at h
    split at h <;> repeat first | (cases h; rfl) | obtain ⟨_, -, h⟩ := bind_eq_ok.mp h
  -- What is made of the parts does not matter.
  all_goals repeat first | (cases h; rfl) | obtain ⟨_, -, h⟩ := bind_eq_ok.mp h

theorem not_isProgram_of_made {c : Concrete} {n : Node} (hmade : Made l c n)
    (h : ∀ {mode atTop n}, convert l mode atTop c = .ok n →
      ∀ m ∈ nodesOf [n], m.isProgram = false) : ∀ m ∈ nodesOf [n], m.isProgram = false := by
  cases hmade with
  | converted hn => exact h hn
  | declared htarget =>
    intro m hm
    rcases mem_nodesOf_singleton.mp hm with rfl | ⟨declarator, hdeclarator, hm⟩
    · rfl
    cases List.mem_singleton.mp hdeclarator
    rcases mem_nodesOf_singleton.mp hm with rfl | ⟨target, htarget', hm⟩
    · rfl
    cases List.mem_singleton.mp htarget'
    exact h htarget m hm

theorem not_isProgram_of_convert {c : Concrete} {n : Node} (hc : c.ProgramFree)
    (h : convert l mode atTop c = .ok n) : ∀ m ∈ nodesOf [n], m.isProgram = false := by
  induction hc generalizing mode atTop n with
  | @node kind role span text cs hkind hcs ih =>
    have hpart {m : Node} (hm : ∃ d ∈ cs, Made l d m) : ∀ k ∈ nodesOf [m], k.isProgram = false := by
      obtain ⟨d, hd, hmade⟩ := hm
      exact not_isProgram_of_made hmade fun h => ih d hd h
    rcases part_or_not_isProgram h hkind with honly | hn
    · exact hpart honly
    rcases convert_cases h with honly | hmade
    · exact hpart honly
    · intro m hm
      rcases mem_nodesOf_singleton.mp hm with rfl | ⟨k, hk, hm⟩
      · exact hn
      · exact hpart (hmade.children k hk) m hm

/-- Where only the root is a program among the grammar nodes of a text, the same holds of its tree,
and no node of it is synthetic. -/
theorem areStatements_of_parseWith {reader : SyntaxReader} {text : List Char}
    {role : Script.Role} {span : Span} {label : String} {parts : List Concrete} {body : List Node}
    {range : SourceRange}
    (hread : reader text = .ok (.node .program role span label parts))
    (hparts : ∀ c ∈ parts, c.ProgramFree)
    (h : parseWith reader text 0 none = .ok (.program body range)) : AreStatements body := by
  obtain ⟨tree, htree, hconvert⟩ := parseWith_eq_ok.mp h
  cases hread.symm.trans htree
  obtain ⟨ns, hns, hprogram⟩ := bind_eq_ok.mp hconvert
  cases hprogram
  refine ⟨not_isSynthetic_of_convertAll rfl hns, fun m hm => ?_⟩
  obtain ⟨root, hroot, hm⟩ := mem_nodesOf.mp hm
  obtain ⟨c, hc, hmade⟩ := made_of_convertAll hns root hroot
  refine not_isProgram_of_made hmade (fun h => not_isProgram_of_convert (hparts c hc) h) m ?_
  rwa [nodesOf_cons, List.append_nil, List.mem_cons]

end

/-- Is a node a function, a control structure or a catch clause? What it holds need not run when
the unit runs. -/
def Script.Node.isGuard : Node → Bool
  | .function .. | .control .. | .catchClause .. => true
  | _ => false

/-- A return without an argument that no function, control structure or catch clause holds. -/
def endsUnit (v : Visit) : Bool :=
  match v.1 with
  | .returns none _ => !v.2.any Node.isGuard
  | _ => false

theorem endsUnit_iff {v : Visit} :
    endsUnit v ↔ (∃ range, v.1 = .returns none range) ∧ ∀ a ∈ v.2, a.isGuard = false := by
  obtain ⟨n, ancestors⟩ := v
  cases n with
  | returns argument range => cases argument <;> simp [endsUnit]
  | _ => simp [endsUnit]

/-! ## Visits -/

/-- What lies around a tree stands before the ancestors inside it. -/
theorem preorder_append (outer : List Node) (n : Node) (ancestors : List Node) :
    preorder n (outer ++ ancestors) =
      (preorder n ancestors).map fun v => (v.1, outer ++ v.2) := by
  induction hk : n.size using Nat.strongRecOn generalizing n ancestors with
  | _ k ih =>
    have hbelow (c : Node) (hc : c ∈ n.children) :
        preorder c (outer ++ ancestors ++ [n]) =
          (preorder c (ancestors ++ [n])).map fun v => (v.1, outer ++ v.2) := by
      rw [List.append_assoc]
      exact ih _ (hk ▸ size_lt_of_mem_children hc) c _ rfl
    rw [preorder_eq, preorder_eq n ancestors, List.map_cons, List.map_flatMap,
      List.flatMap_congr hbelow]

/-- The ancestors of a visited node are among those of the tree or are nodes of the tree. -/
theorem mem_of_mem_preorder {n : Node} {ancestors : List Node} {v : Visit}
    (hv : v ∈ preorder n ancestors) : ∀ a ∈ v.2, a ∈ ancestors ∨ a ∈ nodesOf [n] := by
  induction hk : n.size using Nat.strongRecOn generalizing n ancestors with
  | _ k ih =>
    rw [preorder_eq] at hv
    rcases List.mem_cons.mp hv with rfl | hv
    · exact fun a ha => .inl ha
    · obtain ⟨c, hc, hv⟩ := List.mem_flatMap.mp hv
      intro a ha
      rcases ih _ (hk ▸ size_lt_of_mem_children hc) hv rfl a ha with ha | ha
      · rcases List.mem_append.mp ha with ha | ha
        · exact .inl ha
        · exact .inr (mem_nodesOf_singleton.mpr (.inl (List.mem_singleton.mp ha)))
      · exact .inr (mem_nodesOf_singleton.mpr (.inr ⟨c, hc, ha⟩))

/-- Visits to the nodes of some trees, each tree on its own. -/
def visits (trees : List Node) : List Visit :=
  trees.flatMap fun n => preorder n []

theorem visits_below (outer trees : List Node) :
    (trees.flatMap fun n => preorder n outer) =
      (visits trees).map fun v => (v.1, outer ++ v.2) := by
  rw [visits, List.map_flatMap]
  refine List.flatMap_congr fun n _ => ?_
  rw [← preorder_append, List.append_nil]

theorem ancestors_mem_nodesOf {trees : List Node} {v : Visit} (hv : v ∈ visits trees) :
    ∀ a ∈ v.2, a ∈ nodesOf trees := by
  obtain ⟨n, hn, hv⟩ := List.mem_flatMap.mp hv
  intro a ha
  rcases mem_of_mem_preorder hv a ha with ha | ha
  · cases ha
  · obtain ⟨m, hm, hbelow⟩ := mem_nodesOf.mp ha
    cases List.mem_singleton.mp hm
    exact mem_nodesOf.mpr ⟨n, hn, hbelow⟩

/-! ## Going outward -/

/-- Going outward from a place through nodes of statements to a place that always runs, one finds
that the first place always runs too if and only if none of the nodes is a guard. -/
theorem standing_append_iff {inner outer : List Node}
    (hsynthetic : ∀ a ∈ inner, a.isSynthetic = false) (hprogram : ∀ a ∈ inner, a.isProgram = false)
    (houter : standing outer = .unconditional) :
    standing (inner ++ outer) = .unconditional ↔ ∀ a ∈ inner, a.isGuard = false := by
  induction inner with
  | nil => exact ⟨fun _ => nofun, fun _ => houter⟩
  | cons a inner ih =>
    obtain ⟨ha, hsynthetic⟩ := List.forall_mem_cons.mp hsynthetic
    obtain ⟨hp, hprogram⟩ := List.forall_mem_cons.mp hprogram
    rw [List.forall_mem_cons, ← ih hsynthetic hprogram, List.cons_append]
    cases a with
    | program => cases hp
    | function kind name params body synthetic range =>
      cases ha
      simp [standing, Node.isGuard]
    | control | catchClause =>
      simp only [standing, Node.isGuard, Bool.true_eq_false, false_and, iff_false]
      split <;> nofun
    | _ => simp [standing, Node.isGuard]

/-- The finding for a return. -/
def emptyReturnAt (range : SourceRange) : Issue :=
  .found .emptyReturn "Remove this top-level return statement" range none

/-- A return is found if it has no argument and no guard holds it, wherever that is what going
outward from it comes to. -/
theorem found_returnRemarks {n : Node} {ancestors inner : List Node}
    (h : standing ancestors.reverse = .unconditional ↔ ∀ a ∈ inner, a.isGuard = false) :
    found (returnRemarks (n, ancestors)) =
      if endsUnit (n, inner) then [emptyReturnAt n.range] else [] := by
  cases n with
  | returns argument range =>
    cases argument with
    | some argument => rfl
    | none =>
      have hends : endsUnit (.returns none range, inner) ↔
          standing ancestors.reverse = .unconditional := by
        rw [endsUnit_iff, h]
        exact ⟨And.right, fun hguards => ⟨⟨range, rfl⟩, hguards⟩⟩
      simp only [returnRemarks, hends]
      cases standing ancestors.reverse <;> rfl
  | _ => rfl

/-- Below a place that always runs, the returns are found that have no argument and no guard between
them and that place. -/
theorem found_below {trees : List Node} (htrees : AreStatements trees) (outer : List Node)
    (houter : standing outer.reverse = .unconditional) :
    found ((trees.flatMap fun n => preorder n outer).flatMap returnRemarks) =
      ((visits trees).filter endsUnit).map fun v => emptyReturnAt v.1.range := by
  have hvisit (v : Visit) (hv : v ∈ visits trees) :
      found (returnRemarks (v.1, outer ++ v.2)) =
        if endsUnit v then [emptyReturnAt v.1.range] else [] := by
    have hmem := ancestors_mem_nodesOf hv
    have hstanding : standing (outer ++ v.2).reverse = .unconditional ↔
        ∀ a ∈ v.2, a.isGuard = false := by
      rw [List.reverse_append, standing_append_iff _ _ houter]
      · simp only [List.mem_reverse]
      · exact fun a ha => htrees.notSynthetic a (hmem a (List.mem_reverse.mp ha))
      · exact fun a ha => htrees.notProgram a (hmem a (List.mem_reverse.mp ha))
    exact found_returnRemarks hstanding
  rw [visits_below, List.flatMap_map, found_flatMap, List.flatMap_congr hvisit]
  generalize visits trees = vs
  induction vs with
  | nil => rfl
  | cons v vs ih =>
    rw [List.flatMap_cons, ih, List.filter_cons]
    split <;> rfl

/-- What is found is a return of the unit without an argument. -/
theorem exists_return_of_mem_issues {ctx : Context} {i : Issue}
    (hi : i ∈ Rule.topLevelReturn.issues ctx) :
    ∃ range ancestors, (.returns none range, ancestors) ∈ preorder ctx.program [] ∧
      i = emptyReturnAt range := by
  rw [Rule.issues_eq] at hi
  obtain ⟨⟨n, ancestors⟩, hv, hfinding⟩ :=
    List.mem_flatMap.mp (mem_found.mp (List.mem_of_mem_filter hi))
  rw [walk_eq_preorder] at hv
  simp only [Rule.inspect, returnRemarks] at hfinding
  split at hfinding
  · split at hfinding
    · cases List.mem_singleton.mp hfinding
    · cases List.mem_singleton.mp hfinding
    · obtain ⟨rfl⟩ := Remark.finding.inj (List.mem_singleton.mp hfinding)
      exact ⟨_, _, hv, rfl⟩
  · cases hfinding

/-! ## Units -/

/-- A unit without a return outside of all functions has no return that ends the unit. -/
theorem filter_endsUnit_eq_nil {body : List Node} {range : SourceRange}
    (h : illegalReturn? (.program body range) = none) : (visits body).filter endsUnit = [] := by
  refine List.filter_eq_nil_iff.mpr fun v hv hends => ?_
  obtain ⟨⟨r, hr⟩, hguards⟩ := endsUnit_iff.mp hends
  refine illegalReturn?_eq_none_iff.mp h ⟨none, r, .program body range :: v.2, ?_, ?_⟩
  · rw [walk_eq_preorder, preorder_eq, Node.children, List.nil_append, visits_below]
    exact List.mem_cons_of_mem _ (List.mem_map.mpr ⟨v, hv, by rw [hr]; rfl⟩)
  · refine List.forall_mem_cons.mpr ⟨rfl, fun a ha => ?_⟩
    have hguard := hguards a ha
    cases a <;> first | rfl | cases hguard

/-- What is found in a unit as it stands. -/
theorem found_program {ctx : Context} {body : List Node} {range : SourceRange}
    (hbody : AreStatements body) :
    found (Rule.topLevelReturn.remarks { ctx with program := .program body range }) =
      ((visits body).filter endsUnit).map fun v => emptyReturnAt v.1.range := by
  have hbelow := found_below hbody [.program body range] rfl
  rw [Rule.remarks, walk_eq_preorder, preorder_eq]
  exact hbelow

/-- What is found in a unit inside a wrapper. -/
theorem found_wrappedUnit {ctx : Context} {wrapper : String} {statements : List Node}
    {nameRange bodyRange functionRange range : SourceRange} (h : AreStatements statements) :
    found (Rule.topLevelReturn.remarks
        { ctx with
          program := wrappedUnit wrapper statements nameRange bodyRange functionRange range }) =
      ((visits statements).filter endsUnit).map fun v => emptyReturnAt v.1.range := by
  let name : Node := .identifier wrapper nameRange
  let body : Node := .block statements bodyRange
  let function : Node := .function .declaration (some name) [] (some body) true functionRange
  let program : Node := .program [function] range
  have hpreorder : preorder program [] =
      (program, []) :: (function, [program]) :: (name, [program, function]) ::
        (body, [program, function]) ::
          statements.flatMap fun n => preorder n [program, function, body] := by
    simp [preorder_eq program, preorder_eq function, preorder_eq name, preorder_eq body, program,
      function, name, body, Node.children]
  have hbelow := found_below h [program, function, body] rfl
  rw [Rule.remarks, walk_eq_preorder]
  simp only [wrappedUnit]
  rw [hpreorder]
  exact hbelow

/-- **Top level.** Nothing is reported in a unit without a return outside of all functions. In a
unit inside a wrapper, the returns are reported in the order of the walk that have no argument and
that no function, control structure or catch clause of the unit holds. Whatever the unit, a return
with an argument is not reported. -/
theorem topLevelReturn_exact (ctx : Context) :
    (∀ (body : List Node) (range : SourceRange), AreStatements body →
      illegalReturn? (.program body range) = none →
        Rule.topLevelReturn.issues { ctx with program := .program body range } = []) ∧
    (∀ (wrapper : String) (statements : List Node)
      (nameRange bodyRange functionRange range : SourceRange), AreStatements statements →
      ctx.suppression = {} → 1 ≤ ctx.level →
        Rule.topLevelReturn.issues
            { ctx with
              program := wrappedUnit wrapper statements nameRange bodyRange functionRange range } =
          ((visits statements).filter endsUnit).map fun v => emptyReturnAt v.1.range) ∧
    (∀ i ∈ Rule.topLevelReturn.issues ctx,
      ∃ range ancestors, (.returns none range, ancestors) ∈ preorder ctx.program [] ∧
        i = emptyReturnAt range) ∧
    ∀ argument range ancestors,
      found (returnRemarks (.returns (some argument) range, ancestors)) = [] := by
  refine ⟨fun body range hbody hillegal => ?_, ?_, fun i => exists_return_of_mem_issues,
    fun _ _ _ => rfl⟩
  · rw [Rule.issues_eq, found_program hbody, filter_endsUnit_eq_nil hillegal]
    rfl
  · intro wrapper statements nameRange bodyRange functionRange range hstatements hnone hlevel
    rw [Rule.issues_eq, found_wrappedUnit hstatements]
    refine List.filter_eq_self.mpr fun i hi => ?_
    obtain ⟨v, -, rfl⟩ := List.mem_map.mp hi
    simp [Context.reports, hnone, Suppression.covers, emptyReturnAt, Issue.found, IssueKind.level,
      hlevel]

/-- A return in a function is not reported. Inside a wrapper, neither is one in a loop, but one in
a block is. -/
theorem topLevelReturn_exact_block :
    let r : SourceRange := .ofLines 2 1 2 8
    let nested : Node := .function .arrow none [] (some (.returns none r)) false r
    let looped : Node := .control .loop [.returns none (.ofLines 3 1 3 8)] r
    let plain : Node := .block [.returns none (.ofLines 4 1 4 8)] r
    (AreStatements [nested] ∧ illegalReturn? (.program [nested] r) = none) ∧
      AreStatements [looped, plain] ∧
      Rule.topLevelReturn.issues { lines := [], program := .program [nested] r, level := 3 } = [] ∧
      Rule.topLevelReturn.issues
          { lines := [], program := wrappedUnit "wrapper" [looped, plain] r r r r, level := 1 } =
        [emptyReturnAt (.ofLines 4 1 4 8)] := by
  intro r nested looped plain
  have hnil : nodesOf [] = [] := by rw [nodesOf, List.map_nil, walkStack, List.map_nil]
  have hnested : AreStatements [nested] := by
    constructor <;> simp [nodesOf_cons, hnil, nested, Node.children, Node.isSynthetic,
      Node.isProgram]
  have hstatements : AreStatements [looped, plain] := by
    constructor <;> simp [nodesOf_cons, hnil, looped, plain, Node.children, Node.isSynthetic,
      Node.isProgram]
  have hillegal : illegalReturn? (.program [nested] r) = none := by
    simp [illegalReturn?, walk, walkStack, Visit.below, nested, Node.children, Node.isFunction]
  have hreported : (visits [looped, plain]).filter endsUnit =
      [(.returns none (.ofLines 4 1 4 8), [plain])] := by
    simp [visits, preorder_eq (.returns none _), preorder_eq looped, preorder_eq plain, looped,
      plain, Node.children, endsUnit, Node.isGuard]
  refine ⟨⟨hnested, hillegal⟩, hstatements, ?_, ?_⟩
  · exact (topLevelReturn_exact { lines := [], program := nested, level := 3 }).1 [nested] r hnested
      hillegal
  · have h := (topLevelReturn_exact { lines := [], program := plain, level := 1 }).2.1 "wrapper"
      [looped, plain] r r r r hstatements rfl (Int.le_refl 1)
    rw [hreported] at h
    exact h

end FlowLint
