import FlowLint.Quality.Score

/-!
# Grades and advice

A grade sums up a score in a letter; a group report adds how healthy the group is and what to do
about it.
-/

namespace FlowLint

/-- A letter for a score. -/
structure Grade where
  letter : String
  color : String
  description : String
  deriving Repr, DecidableEq, Inhabited

/-- A piece of advice. -/
structure Recommendation where
  category : String
  message : String
  action : String
  deriving Repr, DecidableEq, Inhabited

namespace Grade

/-- The least score of each grade, best first. -/
def table : List (Int × Grade) :=
  [(98, ⟨"A+", "#22c55e", "Excellent"⟩),
    (95, ⟨"A", "#16a34a", "Very Good"⟩),
    (90, ⟨"A-", "#65a30d", "Good"⟩),
    (85, ⟨"B+", "#84cc16", "Above Average"⟩),
    (80, ⟨"B", "#eab308", "Average"⟩),
    (70, ⟨"B-", "#f59e0b", "Below Average"⟩),
    (60, ⟨"C+", "#f97316", "Fair"⟩),
    (50, ⟨"C", "#ea580c", "Poor"⟩),
    (35, ⟨"D", "#dc2626", "Very Poor"⟩),
    (20, ⟨"D-", "#b91c1c", "Critical"⟩)]

/-- The grade of what reaches no line of the table. -/
def failing : Grade := ⟨"F", "#991b1b", "Failing"⟩

/-- The grade of a score. -/
def ofScore {α : Type} [Numeral α] (score : α) : Grade :=
  ((table.find? fun row => Numeral.le (whole row.1) score).map Prod.snd).getD failing

/-- A grade as an object. -/
def toJson (g : Grade) : Json :=
  .object [("grade", .string g.letter), ("color", .string g.color),
    ("description", .string g.description)]

end Grade

/-- A piece of advice as an object. -/
def Recommendation.toJson (r : Recommendation) : Json :=
  .object [("type", .string r.category), ("message", .string r.message),
    ("action", .string r.action)]

/-- A group with its grade, health and advice. -/
structure GroupReport (α : Type) where
  record : GroupRecord α
  grade : Grade
  criticalKinds : Nat
  importantKinds : Nat
  healthPercentage : Int
  recommendations : List Recommendation

section

variable {m : Type → Type} {α : Type} [Monad m] [Arithmetic m α]

/-- Advice that applies if a kind of finding occurs. -/
def kindAdvice : List (IssueKind × Recommendation) :=
  [(.emptyReturn, ⟨"critical", "Remove top-level return statements",
      "Refactor functions to use proper control flow"⟩),
    (.debuggerStatement, ⟨"critical", "Remove debugger statements",
      "Clean up debugging code before deployment"⟩),
    (.consoleOutput, ⟨"warning", "Replace console.log with proper logging",
      "Use node.log() or remove debugging statements"⟩),
    (.unusedDeclaration, ⟨"info", "Remove unused variables",
      "Clean up variable declarations to improve readability"⟩)]

/-- The advice for a group without findings. -/
def praise : Recommendation :=
  ⟨"success", "Excellent! No code quality issues detected.", "Maintain current coding standards"⟩

/-- Does a list of names hold the name of a kind? -/
def names (kinds : List Json) (kind : IssueKind) : Bool :=
  kinds.any fun
    | .string s => s = kind.name
    | _ => false

/-- Advice for a group. -/
def recommendations (record : GroupRecord α) : m (List Recommendation) := do
  if record.totalIssues = 0 then
    return [praise]
  let byKind := (kindAdvice.filter fun a => names record.distinctKinds a.1).map Prod.snd
  let byComplexity : List Recommendation :=
    if Numeral.lt (whole 20) record.complexityScore then
      [⟨"warning", "High code complexity detected",
        "Consider breaking down complex functions into smaller ones"⟩]
    else []
  let many ← exceeds m α record.unitsWithIssues record.totalUnits (1 / 2)
  let byShare : List Recommendation :=
    if many then
      [⟨"warning", "Many nodes have quality issues",
        "Focus on systematic code review and refactoring"⟩]
    else []
  return byKind ++ byComplexity ++ byShare

/-- The share of units without findings in percent. -/
def healthPercentage (record : GroupRecord α) : m Int := do
  let healthy := record.totalUnits - record.unitsWithIssues
  let percent : α ← shareTimes healthy (max 1 record.totalUnits) 100
  Arithmetic.floor (← roundHalfUp 0 percent)

end

/-- Can every item be told apart from the others by its value? Lists and objects cannot. -/
def distinguishable (items : List Json) : Bool :=
  items.all fun
    | .array _ | .object _ => false
    | _ => true

/-- The report on a group. -/
def groupReport (record : GroupRecord Number) : Except Fault (GroupReport Number) := do
  let impacts := record.distinctKinds.map impactOf
  let healthPercentage ← healthPercentage record
  if record.totalIssues != 0 && !distinguishable record.distinctKinds then throw .wrongType
  return { record
           grade := .ofScore record.qualityScore
           criticalKinds := impacts.count .critical
           importantKinds := impacts.count .important
           healthPercentage
           recommendations := ← recommendations record }

/-- The report on a group as an object. -/
def GroupReport.toJson (r : GroupReport Number) : Json :=
  .object (r.record.summary ++ r.record.unitMembers ++ [
    ("grade", r.grade.toJson),
    ("critical_issues", .int r.criticalKinds),
    ("warning_issues", .int r.importantKinds),
    ("health_percentage", .int r.healthPercentage),
    ("recommendations", .array (r.recommendations.map Recommendation.toJson))])

end FlowLint
