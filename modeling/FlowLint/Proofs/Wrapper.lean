import FlowLint.Proofs.Findings
import FlowLint.Proofs.Scope
import FlowLint.Proofs.Walk

/-!
# What a wrapper function changes

A unit that returns at top level is analyzed inside a wrapper function. Only the rule on returns
can tell.

* `filter_nodeFindings`: without returns, findings on nodes do not depend on their ancestors.
* `unusedBindings_wrapped`: the scope of the wrapper takes the place of the scope of the program.
* `detectIn_wrapped`: all findings but those on returns are the same, in the same order.
-/

namespace FlowLint

open Script Scoping

/-- Statements as a unit of their own, inside a wrapper function. -/
def wrappedUnit (wrapper : String) (statements : List Node)
    (nameRange bodyRange functionRange range : SourceRange) : Node :=
  .program [.function .declaration (some (.identifier wrapper nameRange)) []
    (some (.block statements bodyRange)) true functionRange] range

variable (wrapper : String) (statements : List Node)
  (nameRange bodyRange functionRange range range' : SourceRange)

/-! ## Nodes -/

/-- What the rules on nodes find on a node whatever its ancestors are. -/
def plainFindings (profile : HostProfile) (n : Node) : List Issue :=
  found (outputRemarks profile (n, [])) ++ found (placeholderRemarks (n, []))

/-- The findings of a rule that does not report empty returns all stay. -/
theorem filter_found_inspect {rule : Rule} (profile : HostProfile) (v : Visit)
    (h : .emptyReturn ∉ rule.kinds) :
    (found (rule.inspect profile v)).filter (·.kind ≠ .emptyReturn) =
      found (rule.inspect profile v) := by
  refine List.filter_eq_self.mpr fun i hi => decide_eq_true ?_
  intro hkind
  exact h (hkind ▸ Rule.kind_of_inspect (mem_found.mp hi))

/-- Without empty returns, the findings on a visited node do not depend on its ancestors. -/
theorem filter_nodeFindings (profile : HostProfile) (program : Node) :
    (nodeFindings profile program).filter (·.kind ≠ .emptyReturn) =
      (nodesOf [program]).flatMap (plainFindings profile) := by
  unfold nodeFindings
  rw [List.filter_flatMap, ← nodes_walk, List.flatMap_map]
  congr 1
  funext v
  have hreturn : (found (Rule.topLevelReturn.inspect profile v)).filter
      (·.kind ≠ .emptyReturn) = [] := by
    refine List.filter_eq_nil_iff.mpr fun i hi => ?_
    have hkind := List.mem_singleton.mp (Rule.kind_of_inspect (mem_found.mp hi))
    simp [hkind]
  have hdebug : .emptyReturn ∉ Rule.debugOutput.kinds := by decide
  have hplaceholder : .emptyReturn ∉ Rule.placeholderValue.kinds := by decide
  simp only [Rule.onNodes, List.flatMap_cons, List.flatMap_nil, List.filter_append, hreturn,
    filter_found_inspect profile v hdebug, filter_found_inspect profile v hplaceholder,
    List.nil_append, List.append_nil]
  rfl

/-- The nodes of a wrapped unit: the program, the wrapper with its name and its block, and the nodes
of the statements. -/
theorem nodesOf_wrappedUnit :
    nodesOf [wrappedUnit wrapper statements nameRange bodyRange functionRange range] =
      wrappedUnit wrapper statements nameRange bodyRange functionRange range
        :: .function .declaration (some (.identifier wrapper nameRange)) []
            (some (.block statements bodyRange)) true functionRange
        :: .identifier wrapper nameRange :: .block statements bodyRange :: nodesOf statements := by
  simp only [wrappedUnit, nodesOf_cons, Node.children, Option.toList, List.append_nil,
    List.nil_append, List.cons_append]

/-- The wrapper and its name and body have no findings of their own. -/
theorem nodeFindings_wrapped (profile : HostProfile) :
    (nodeFindings profile
        (wrappedUnit wrapper statements nameRange bodyRange functionRange range)).filter
        (·.kind ≠ .emptyReturn) =
      (nodeFindings profile (.program statements range')).filter (·.kind ≠ .emptyReturn) := by
  rw [filter_nodeFindings, filter_nodeFindings, nodesOf_wrappedUnit, nodesOf_cons, Node.children,
    List.append_nil]
  simp only [List.flatMap_cons]
  rfl

/-! ## Declarations -/

/-- Nothing is reported of a scope that declares only what is exempt. -/
theorem unused_close_of_covers {e : Exemption} {u : Usage}
    (h : ∀ b ∈ u.declared, e.covers b = true) : (u.close e).unused = u.unused := by
  have hnone : (u.declared.filter fun b => !u.pending.contains b.name && !e.covers b) = [] := by
    refine List.filter_eq_nil_iff.mpr fun b hb => ?_
    rw [h b hb, Bool.not_true, Bool.and_false]
    exact Bool.false_ne_true
  rw [Usage.close, hnone, List.append_nil]

/-- The scope of the wrapper takes the place of the scope of the program, and the name of the
wrapper, a function, is not reported. -/
theorem unusedBindings_wrapped (e : Exemption) :
    unusedBindings e (wrappedUnit wrapper statements nameRange bodyRange functionRange range) =
      unusedBindings e (.program statements range') := by
  let name : Binding := { name := wrapper, kind := .function, range := nameRange }
  let inner : Usage := (usageAll e .use statements).close e
  have hwrapped : usage e .use (wrappedUnit wrapper statements nameRange bodyRange functionRange
      range) = Usage.close e ({ declared := [name] } ++ inner) := by
    simp [wrappedUnit, usage, usageAll, usageOpt, declaring, name, inner]
  have hplain : usage e .use (.program statements range') = inner := by
    simp [usage, inner]
  have hunused : (Usage.close e ({ declared := [name] } ++ inner)).unused = inner.unused := by
    refine unused_close_of_covers fun b hb => ?_
    -- A closed scope declares nothing, so the name of the wrapper stands alone.
    obtain rfl : b = name := List.mem_singleton.mp hb
    rfl
  rw [unusedBindings, unusedBindings, hwrapped, hplain, hunused]

/-! ## All rules -/

/-- **Transparency.** A unit inside a wrapper function has the findings that its statements have
as a unit of their own, in the same order, apart from those on returns. -/
theorem detectIn_wrapped (ctx : Context) :
    (detectIn
        { ctx with
          program := wrappedUnit wrapper statements nameRange bodyRange functionRange range
        }).filter (·.kind ≠ .emptyReturn) =
      (detectIn { ctx with program := .program statements range' }).filter
        (·.kind ≠ .emptyReturn) := by
  let wrapped : Context :=
    { ctx with program := wrappedUnit wrapper statements nameRange bodyRange functionRange range }
  let plain : Context := { ctx with program := .program statements range' }
  have hnode : (nodeFindings ctx.profile wrapped.program).filter (·.kind ≠ .emptyReturn) =
      (nodeFindings ctx.profile plain.program).filter (·.kind ≠ .emptyReturn) :=
    nodeFindings_wrapped ..
  have hunused : Rule.unusedDeclaration.remarks wrapped = Rule.unusedDeclaration.remarks plain :=
    congrArg (List.map _) (unusedBindings_wrapped ..)
  have hunit : unitFindings wrapped = unitFindings plain := by
    simp only [unitFindings, Rule.onUnits, List.flatMap_cons, hunused]
    rfl
  have hfindings : (findings wrapped).filter (·.kind ≠ .emptyReturn) =
      (findings plain).filter (·.kind ≠ .emptyReturn) := by
    rw [findings, findings, List.filter_append, List.filter_append, hunit]
    exact congrArg (· ++ _) hnode
  calc (detectIn wrapped).filter (·.kind ≠ .emptyReturn)
      = ((findings wrapped).filter (·.kind ≠ .emptyReturn)).filter ctx.reports := by
        rw [detectIn_eq, List.filter_comm]
        rfl
    _ = ((findings plain).filter (·.kind ≠ .emptyReturn)).filter ctx.reports := by
        rw [hfindings]
    _ = (detectIn plain).filter (·.kind ≠ .emptyReturn) := by
        rw [detectIn_eq, List.filter_comm]
        rfl

end FlowLint
