import FlowLint.Issue.Kind
import FlowLint.Number.Arithmetic

/-!
# How much a kind of leftover matters

Each kind has an impact tier and a weight. Weights can be replaced kind by kind.
-/

namespace FlowLint

/-- How strongly a kind bears on the quality of a unit. -/
inductive Impact where
  | critical | important | minor
  deriving Repr, DecidableEq, Inhabited

namespace Impact

def name : Impact → String
  | critical => "critical"
  | important => "important"
  | minor => "minor"

def color : Impact → String
  | critical => "#dc2626"
  | important => "#f59e0b"
  | minor => "#3b82f6"

/-- The rank of a tier; 1 comes first. -/
def priority : Impact → Nat
  | critical => 1
  | important => 2
  | minor => 3

/-- A tier as an object. -/
def toJson (i : Impact) : Json :=
  .object [("level", .string i.name), ("color", .string i.color), ("priority", .int i.priority)]

end Impact

namespace IssueKind

/-- The impact tier of a kind. -/
def impact : IssueKind → Impact
  | emptyReturn | debuggerStatement => .critical
  | consoleOutput | hostWarning | unusedDeclaration | todoComment => .important
  | placeholderValue | blankRun | commentedOutCode => .minor

/-- Is a kind in the highest tier? -/
def isCritical (kind : IssueKind) : Bool :=
  kind.impact = .critical

end IssueKind

/-- The impact tier of a kind given by its name; anything unknown is minor. -/
def impactOf (kind : Json) : Impact :=
  match IssueKind.ofJson kind with
  | .ok k => k.impact
  | .error _ => .minor

/-- How much a finding of each kind takes off a score. -/
abbrev Weights (α : Type) := IssueKind → α

namespace Weights

variable {α : Type} [Numeral α]

/-- The weights unless others are asked for. -/
def standard : Weights α
  | .emptyReturn => whole 60
  | .debuggerStatement => whole 50
  | .hostWarning => whole 30
  | .consoleOutput => whole 25
  | .todoComment => whole 15
  | .unusedDeclaration => whole 10
  | .placeholderValue => whole 12
  | .commentedOutCode => whole 3
  | .blankRun => whole 3

/-- The weight of a kind that was taken out of the table. -/
def fallback : α := decimal 1

/-- A table with another weight for one kind; `none` takes the kind out of the table. -/
def replace (weights : Weights α) (kind : IssueKind) (weight : Option α) : Weights α :=
  fun k => if k = kind then weight.getD fallback else weights k

end Weights

end FlowLint
