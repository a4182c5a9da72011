import FlowLint.Rule.Line
import FlowLint.Rule.Tree
import FlowLint.Scope

/-!
# The rules

Each rule reports one or more kinds of leftovers. `Rule.check` runs one rule alone, and `detectIn`
runs all that a level switches on: the rules on nodes share one walk over the tree, then come the
rule on declarations and the rules on lines.
-/

namespace FlowLint

open Script

/-- A rule. -/
inductive Rule where
  | topLevelReturn
  | debugOutput
  | placeholderValue
  | unusedDeclaration
  | blankRun
  | commentedOutCode
  | todoComment
  deriving Repr, DecidableEq, Inhabited

/-- Bindings of variables to which nothing refers. -/
def unusedRemarks (profile : HostProfile) (program : Node) : List Remark :=
  (unusedBindings { names := profile.ambientGlobals, mark := profile.unusedMark } program).map
    fun b => .finding (.found .unusedDeclaration
      ("Variable '" ++ b.name ++ "' is declared but never used") b.range none)

namespace Rule

/-- The kinds that a rule reports. -/
def kinds : Rule → List IssueKind
  | topLevelReturn => [.emptyReturn]
  | debugOutput => [.consoleOutput, .hostWarning, .debuggerStatement]
  | placeholderValue => [.placeholderValue]
  | unusedDeclaration => [.unusedDeclaration]
  | blankRun => [.blankRun]
  | commentedOutCode => [.commentedOutCode]
  | todoComment => [.todoComment]

/-- Is any kind of a rule reported at a level? -/
def enabled (rule : Rule) (level : Int) : Bool :=
  rule.kinds.any fun kind => kind.level ≤ level

/-- The rules on single nodes. Their order is the order of findings on the same node. -/
def onNodes : List Rule := [topLevelReturn, debugOutput, placeholderValue]

/-- The rules on whole units, in the order in which they run. -/
def onUnits : List Rule := [unusedDeclaration, blankRun, commentedOutCode, todoComment]

/-- What a rule says about one node. -/
def inspect (rule : Rule) (profile : HostProfile) (v : Visit) : List Remark :=
  match rule with
  | topLevelReturn => returnRemarks v
  | debugOutput => outputRemarks profile v
  | placeholderValue => placeholderRemarks v
  | _ => []

/-- What a rule says about a unit. -/
def remarks (rule : Rule) (ctx : Context) : List Remark :=
  match rule with
  | topLevelReturn | debugOutput | placeholderValue =>
    (walk ctx.program []).flatMap (rule.inspect ctx.profile)
  | unusedDeclaration => unusedRemarks ctx.profile ctx.program
  | blankRun => blankRunRemarks ctx.suppression ctx.lines
  | commentedOutCode =>
    commentedOutRemarks ctx.suppression ctx.profile.directiveMarker ctx.lines
  | todoComment => todoRemarks 1 ctx.lines

/-- Run a rule alone. -/
def check (rule : Rule) (ctx : Context) : List Event :=
  (rule.remarks ctx).flatMap ctx.accept

end Rule

/-- What the rules on nodes say in one walk over the tree. -/
def nodeEvents (ctx : Context) : List Event :=
  let active := Rule.onNodes.filter (·.enabled ctx.level)
  (walk ctx.program []).flatMap fun v =>
    active.flatMap fun rule => (rule.inspect ctx.profile v).flatMap ctx.accept

/-- What the rules on whole units say. -/
def unitEvents (ctx : Context) : List Event :=
  (Rule.onUnits.filter (·.enabled ctx.level)).flatMap fun rule => rule.check ctx

/-- What all rules say that a level switches on. -/
def ruleEvents (ctx : Context) : List Event :=
  nodeEvents ctx ++ unitEvents ctx

/-- The findings of all rules that a level switches on. -/
def detectIn (ctx : Context) : List Issue :=
  (ruleEvents ctx).filterMap Event.issue?

end FlowLint
