import FlowLint.Proofs.Rules
import FlowLint.Proofs.Wrapper

/-!
# Trees one line further down

If every node of a tree stands one line further down, then all that is found in the tree does.

* `Node.down` moves a tree, and `children_down` says that its parts move with it.
* `standing_cons_down`: whether a return always ends the unit does not depend on lines.
* `nodeFindings_lowered`: the findings on nodes move with the tree.
* `usage_down`: so do the bindings that the analysis of scopes passes outward. A name looks for its
  declaration by what is around it, and the order of positions is the same further down.
-/

namespace FlowLint

open Script Scoping

/-! ## Moving -/

/-- The position one line further down. -/
def Position.down (p : Position) : Position :=
  { p with line := p.line + 1 }

/-- The range one line further down. -/
def SourceRange.down (r : SourceRange) : SourceRange :=
  ⟨r.start.down, r.stop.down⟩

/-- The finding one line further down. -/
def Issue.down (i : Issue) : Issue :=
  { i with range := i.range.down }

/-- The binding one line further down. -/
def Binding.down (b : Binding) : Binding :=
  { b with range := b.range.down }

namespace Script.Node

mutual

/-- The tree one line further down. -/
def down : Node → Node
  | program body r => program (downAll body) r.down
  | block body r => block (downAll body) r.down
  | identifier name r => identifier name r.down
  | propertyName name r => propertyName name r.down
  | literal value raw r => literal value raw r.down
  | function kind name params body synthetic r =>
    function kind (downOpt name) (downAll params) (downOpt body) synthetic r.down
  | classNode name declared heritage members r =>
    classNode (downOpt name) declared (downOpt heritage) (downAll members) r.down
  | declarator target init r => declarator (downOpt target) (downOpt init) r.down
  | declaration keyword declarators r => declaration keyword (downAll declarators) r.down
  | pattern kind elements r => pattern kind (downAll elements) r.down
  | patternProperty key value r => patternProperty (downOpt key) (downOpt value) r.down
  | assignmentPattern target fallback r =>
    assignmentPattern (downOpt target) (downOpt fallback) r.down
  | assignment target value operator r =>
    assignment (downOpt target) (downOpt value) operator r.down
  | call callee arguments constructs r =>
    call (downOpt callee) (downAll arguments) constructs r.down
  | member object property computed r =>
    member (downOpt object) (downOpt property) computed r.down
  | returns argument r => returns (downOpt argument) r.down
  | debugger r => debugger r.down
  | control kind parts r => control kind (downAll parts) r.down
  | catchClause param body r => catchClause (downOpt param) (downOpt body) r.down
  | other kind parts r => other kind (downAll parts) r.down

/-- `down` for several trees. -/
def downAll : List Node → List Node
  | [] => []
  | n :: ns => down n :: downAll ns

/-- `down` for a tree that may be absent. -/
def downOpt : Option Node → Option Node
  | none => none
  | some n => some (down n)

end

@[simp] theorem downAll_eq (ns : List Node) : downAll ns = ns.map down := by
  induction ns with
  | nil => rw [downAll, List.map_nil]
  | cons n ns ih => rw [downAll, List.map_cons, ih]

@[simp] theorem downOpt_eq (n : Option Node) : downOpt n = n.map down := by
  cases n <;> rw [downOpt] <;> rfl

@[simp] theorem toList_map_down (n : Option Node) : (n.map down).toList = n.toList.map down := by
  cases n <;> rfl

@[simp] theorem children_down (n : Node) : n.down.children = n.children.map down := by
  cases n <;> simp [down, children]

@[simp] theorem isFunction_down (n : Node) : n.down.isFunction = n.isFunction := by
  cases n <;> simp [down, isFunction]

end Script.Node

/-! ## Findings on nodes -/

/-- Where a return stands, if all is one line further down. -/
def Standing.down : Standing → Standing
  | .nested line => .nested (line + 1)
  | s => s

/-- Where a node stands depends on the form of its ancestors only. -/
theorem standing_cons_down {outer outer' : List Node}
    (h : standing outer' = (standing outer).down) (n : Node) :
    standing (n.down :: outer') = (standing (n :: outer)).down := by
  cases n with
  | control kind parts r =>
    simp only [Node.down, standing, h]
    cases standing outer <;> rfl
  | catchClause param body r =>
    simp only [Node.down, standing, h]
    cases standing outer <;> rfl
  | function kind name params body synthetic r =>
    cases synthetic <;> simp [Node.down, standing, Standing.down, SourceRange.down, Position.down]
  | program body r => simp [Node.down, standing, Standing.down]
  | _ => simp only [Node.down, standing, h]

theorem found_returnRemarks_down {outer outer' : List Node}
    (h : standing outer'.reverse = (standing outer.reverse).down) (n : Node) :
    found (returnRemarks (n.down, outer')) = (found (returnRemarks (n, outer))).map Issue.down := by
  cases n with
  | returns argument r =>
    cases argument with
    | none =>
      simp only [Node.down, returnRemarks, Node.downOpt, h]
      cases standing outer.reverse <;> rfl
    | some value => rfl
  | _ => rfl

/-- The method that a call names is the same: its parts keep their form. -/
theorem methodCall?_down (n : Node) : methodCall? n.down = methodCall? n := by
  cases n with
  | call callee arguments constructs r =>
    rcases callee with _ | callee
    · simp [Node.down, methodCall?]
    cases callee with
    | member object property computed r' =>
      rcases object with _ | object
      · simp [Node.down, methodCall?]
      cases object with
      | identifier owner r₁ =>
        rcases property with _ | property
        · simp [Node.down, methodCall?]
        cases property with
        | propertyName method r₂ => cases computed <;> cases constructs <;> rfl
        | _ => simp [Node.down, methodCall?]
      | _ => simp [Node.down, methodCall?]
    | _ => simp [Node.down, methodCall?]
  | _ => simp [Node.down, methodCall?]

theorem found_outputRemarks_down (profile : HostProfile) (n : Node) (outer outer' : List Node) :
    found (outputRemarks profile (n.down, outer')) =
      (found (outputRemarks profile (n, outer))).map Issue.down := by
  cases n with
  | call callee arguments constructs r =>
    have hcall := methodCall?_down (.call callee arguments constructs r)
    simp only [Node.down] at hcall
    rcases hnames : methodCall? (.call callee arguments constructs r) with _ | ⟨owner, method⟩
    · rw [hnames] at hcall
      simp only [Node.down, outputRemarks, hcall, hnames]
      rfl
    · rw [hnames] at hcall
      simp only [Node.down, outputRemarks, hcall, hnames]
      split
      · rfl
      · split <;> rfl
  | _ => rfl

theorem storedValue?_down (n : Node) : storedValue? n.down = (storedValue? n).map Node.down := by
  cases n <;> simp [Node.down, storedValue?]

theorem found_placeholderRemarks_down (n : Node) (outer outer' : List Node) :
    found (placeholderRemarks (n.down, outer')) =
      (found (placeholderRemarks (n, outer))).map Issue.down := by
  simp only [placeholderRemarks, storedValue?_down]
  rcases storedValue? n with _ | value
  · rfl
  cases value with
  | literal value raw r =>
    simp only [Option.map_some, Node.down]
    cases placeholder? value <;> rfl
  | _ => rfl

/-- What the rules on nodes find on a visited node. -/
def visitFindings (profile : HostProfile) (v : Visit) : List Issue :=
  Rule.onNodes.flatMap fun rule => found (rule.inspect profile v)

theorem nodeFindings_eq (profile : HostProfile) (program : Node) :
    nodeFindings profile program = (preorder program []).flatMap (visitFindings profile) := by
  rw [← walk_eq_preorder]
  rfl

theorem visitFindings_down {outer outer' : List Node}
    (h : standing outer'.reverse = (standing outer.reverse).down) (profile : HostProfile)
    (n : Node) :
    visitFindings profile (n.down, outer') =
      (visitFindings profile (n, outer)).map Issue.down := by
  have hreturn := found_returnRemarks_down h n
  have houtput := found_outputRemarks_down profile n outer outer'
  have hplaceholder := found_placeholderRemarks_down n outer outer'
  simp only [visitFindings, Rule.onNodes, List.flatMap_cons, List.flatMap_nil, Rule.inspect,
    hreturn, houtput, hplaceholder, List.map_append, List.map_nil]

/-- The findings on a tree move with it, if what is around it stands alike. -/
theorem findings_preorder_down {outer outer' : List Node}
    (h : standing outer'.reverse = (standing outer.reverse).down) (profile : HostProfile)
    (n : Node) :
    (preorder n.down outer').flatMap (visitFindings profile) =
      ((preorder n outer).flatMap (visitFindings profile)).map Issue.down := by
  -- On the size of the tree: its root joins what is around the children, which stands alike again.
  induction hk : n.size using Nat.strongRecOn generalizing n outer outer' with
  | _ k ih =>
    have hinner :
        standing (outer' ++ [n.down]).reverse = (standing (outer ++ [n]).reverse).down := by
      rw [List.reverse_append, List.reverse_append]
      exact standing_cons_down h n
    have hchildren : ∀ c ∈ n.children,
        (preorder c.down (outer' ++ [n.down])).flatMap (visitFindings profile) =
          ((preorder c (outer ++ [n])).flatMap (visitFindings profile)).map Issue.down :=
      fun c hc => ih c.size (hk ▸ size_lt_of_mem_children hc) hinner c rfl
    rw [preorder_eq n.down, preorder_eq n, List.flatMap_cons, List.flatMap_cons, List.map_append,
      visitFindings_down h, Node.children_down, List.flatMap_map, List.flatMap_assoc,
      List.flatMap_assoc, List.map_flatMap]
    exact congrArg _ (List.flatMap_congr hchildren)

/-- A unit has the statements of another one, one line further down. Where the program and the
wrapper stand makes no difference. -/
inductive Lowered : Node → Node → Prop
  | plain (statements : List Node) (range range' : SourceRange) :
      Lowered (.program statements range) (.program (statements.map Node.down) range')
  | wrapped (name : String) (statements : List Node)
      (nameRange bodyRange functionRange range : SourceRange)
      (nameRange' bodyRange' functionRange' range' : SourceRange) :
      Lowered (wrappedUnit name statements nameRange bodyRange functionRange range)
        (wrappedUnit name (statements.map Node.down) nameRange' bodyRange' functionRange' range')

theorem findings_statements_down {outer outer' : List Node}
    (h : standing outer'.reverse = (standing outer.reverse).down) (profile : HostProfile)
    (statements : List Node) :
    ((statements.map Node.down).flatMap fun n => preorder n outer').flatMap
        (visitFindings profile) =
      ((statements.flatMap fun n => preorder n outer).flatMap
        (visitFindings profile)).map Issue.down := by
  rw [List.flatMap_map, List.flatMap_assoc, List.flatMap_assoc, List.map_flatMap]
  exact List.flatMap_congr fun n _ => findings_preorder_down h profile n

/-- The findings on nodes move with the statements. -/
theorem nodeFindings_lowered {program program' : Node} (h : Lowered program program')
    (profile : HostProfile) :
    nodeFindings profile program' = (nodeFindings profile program).map Issue.down := by
  rw [nodeFindings_eq, nodeFindings_eq]
  -- Nothing is found on the program, on the wrapper or on its name and its block, and neither the
  -- program nor the wrapper keeps a return in a statement from ending the unit.
  cases h with
  | plain statements range range' =>
    rw [preorder_eq, preorder_eq (.program statements range), List.flatMap_cons, List.flatMap_cons,
      List.map_append]
    exact findings_statements_down rfl profile statements
  | wrapped name statements =>
    simp only [wrappedUnit, preorder_eq (.program _ _), preorder_eq (.function _ _ _ _ _ _),
      preorder_eq (.identifier _ _), preorder_eq (.block _ _), Node.children, Option.toList,
      List.flatMap_cons, List.flatMap_nil, List.append_nil, List.nil_append, List.cons_append,
      List.map_append]
    exact findings_statements_down rfl profile statements

/-! ## Bindings -/

/-- What a part contributes, one line further down. -/
def Usage.down (u : Usage) : Usage :=
  { u with declared := u.declared.map Binding.down, unused := u.unused.map Binding.down }

theorem Usage.append_down (u v : Usage) : (u ++ v).down = u.down ++ v.down := by
  show (Usage.append u v).down = Usage.append u.down v.down
  simp [Usage.append, Usage.down]

theorem Usage.close_down (e : Exemption) (u : Usage) : (u.close e).down = u.down.close e := by
  have hcovers (b : Binding) : e.covers b.down = e.covers b := rfl
  have hdeclares (name : String) : u.down.declares name = u.declares name := by
    simp only [Usage.declares, Usage.down, List.any_map]
    rfl
  simp only [Usage.close, hdeclares]
  simp only [Usage.down, List.map_append, List.map_nil, List.filter_map, Function.comp_def, hcovers]
  rfl

namespace Scoping

/-- What to look at, one line further down. -/
def Look.down (l : Look) : Look :=
  { l with node := l.node.down }

theorem looksAt_down (part : Part) (role : Role) (nodes : List Node) :
    looksAt part role (nodes.map Node.down) = (looksAt part role nodes).map Look.down := by
  simp only [looksAt, List.zipIdx_map, List.map_map]
  rfl

theorem any_isFunction_down (n : Option Node) :
    (n.map Node.down).any Node.isFunction = n.any Node.isFunction := by
  cases n <;> simp

theorem looksOutside_down (role : Role) (n : Node) :
    looksOutside role n.down = (looksOutside role n).map Look.down := by
  have hnil (part : Part) (role : Role) : looksAt part role [] = [] := rfl
  have hone (part : Part) (role : Role) (n : Node) :
      looksAt part role [n] = [⟨(part, 0), role, n⟩] := rfl
  cases n with
  | function kind name params body synthetic r =>
    cases kind <;> cases role <;> simp [Node.down, looksOutside, looksAt_down]
  | member object property computed r =>
    cases computed <;> cases role <;> simp [Node.down, looksOutside, looksAt_down]
  | patternProperty key value r =>
    cases role with
    | bind kind f =>
      -- Whether the key is looked at depends on its form.
      rcases key with _ | key
      · simp [Node.down, looksOutside, looksAt_down, hnil]
      · cases key <;> simp [Node.down, looksOutside, looksAt_down, hone, Look.down]
    | _ =>
      simp [Node.down, looksOutside, looksAt_down, Node.children, -List.map_append,
        ← List.map_append]
  | _ =>
    cases role <;>
      simp [Node.down, looksOutside, looksAt_down, Node.children, hnil, any_isFunction_down,
        -List.map_append, ← List.map_append]

theorem looksInside_down (role : Role) (n : Node) :
    looksInside role n.down = (looksInside role n).map Look.down := by
  cases n <;> cases role <;> simp [Node.down, looksInside, looksAt_down]

theorem declaredName_down (kind : BindingKind) (name : Option Node) :
    (declaredName kind (name.map Node.down)).map Prod.snd =
      ((declaredName kind name).map Prod.snd).map Binding.down := by
  rcases name with _ | name
  · rfl
  · cases name <;> rfl

theorem declaredAround_down (role : Role) (n : Node) :
    (declaredAround role n.down).map Prod.snd =
      ((declaredAround role n).map Prod.snd).map Binding.down := by
  cases n with
  | function kind name params body synthetic r =>
    simp only [Node.down, Node.downOpt_eq]
    cases kind <;> cases role <;> first | rfl | exact declaredName_down .function name
  | classNode name declared heritage members r =>
    simp only [Node.down, Node.downOpt_eq]
    cases declared <;> cases role <;> first | rfl | exact declaredName_down .classDefinition name
  | _ => cases role <;> rfl

theorem declaredWithin_down (role : Role) (n : Node) :
    (declaredWithin role n.down).map Prod.snd =
      ((declaredWithin role n).map Prod.snd).map Binding.down := by
  cases n with
  | function kind name params body synthetic r =>
    simp only [Node.down, Node.downOpt_eq]
    cases kind <;> cases role <;> first | rfl | exact declaredName_down .function name
  | _ => cases role <;> rfl

theorem referredAround_down (role : Role) (n : Node) :
    referredAround role n.down = referredAround role n := by
  cases n <;> cases role <;> rfl

theorem usageOf_down (e : Exemption) {looks : List Look}
    (h : ∀ l ∈ looks, usage e l.role l.node.down = (usage e l.role l.node).down) :
    usageOf e (looks.map Look.down) = (usageOf e looks).down := by
  induction looks with
  | nil => rfl
  | cons l looks ih =>
    have hrest := ih fun l' hl' => h l' (List.mem_cons_of_mem _ hl')
    show usage e l.role l.node.down ++ usageOf e (looks.map Look.down) =
      (usage e l.role l.node ++ usageOf e looks).down
    rw [h l List.mem_cons_self, hrest, Usage.append_down]

/-- What a node contributes to its scope moves with it. -/
theorem usage_down (e : Exemption) (role : Role) (n : Node) :
    usage e role n.down = (usage e role n).down := by
  induction role, n using looks_induction with
  | step role n hout hin =>
    rw [usage_eq, usage_eq e role n, looksOutside_down, looksInside_down, usageOf_down e hout,
      usageOf_down e hin, declaredAround_down, declaredWithin_down, referredAround_down,
      Usage.append_down, Usage.append_down, Usage.close_down, Usage.append_down]
    rfl

theorem usageAll_down (e : Exemption) (role : Role) (ns : List Node) :
    usageAll e role (ns.map Node.down) = (usageAll e role ns).down := by
  induction ns with
  | nil =>
    rw [List.map_nil, usageAll]
    rfl
  | cons n ns ih => rw [List.map_cons, usageAll, usageAll, usage_down, ih, Usage.append_down]

end Scoping

theorem Position.down_le_down (p q : Position) : p.down.le q.down = p.le q := by
  rw [Bool.eq_iff_iff, le_iff, le_iff]
  simp [Position.down]

/-- The unused bindings of a unit move with its statements. -/
theorem unusedBindings_lowered {program program' : Node} (h : Lowered program program')
    (e : Exemption) :
    unusedBindings e program' = (unusedBindings e program).map Binding.down := by
  have hplain (statements : List Node) (range range' : SourceRange) :
      unusedBindings e (.program (statements.map Node.down) range') =
        (unusedBindings e (.program statements range)).map Binding.down := by
    have husage : usage e .use (.program (statements.map Node.down) range') =
        (usage e .use (.program statements range)).down := by
      rw [usage, usage, Usage.close_down, usageAll_down]
    rw [unusedBindings, unusedBindings, husage]
    refine (List.map_mergeSort fun a _ b _ => ?_).symm
    exact (Position.down_le_down a.range.start b.range.start).symm
  cases h with
  | plain statements range range' => exact hplain statements range range'
  | wrapped name statements nameRange bodyRange functionRange range nameRange' bodyRange'
      functionRange' range' =>
    rw [unusedBindings_wrapped _ _ _ _ _ _ range', unusedBindings_wrapped _ _ _ _ _ _ range]
    exact hplain statements range range'

end FlowLint
