import FlowLint.Quality.Score

/-!
# Requests of the service

What the handlers of the service take: the fields of a request, once its content is decoded.
-/

namespace FlowLint

/-- A request to check one source. -/
structure CheckRequest where
  code : String
  detectionLevel : Option Int := none
  verbose : Option Bool := none
  unitName : String := "input"
  includeReport : Bool := false

/-- A finding in a request. -/
structure IssueInput where
  kind : String
  variant : Option String := none
  message : String := ""
  severity : Option String := none
  line : Int := 1
  column : Int := 1
  endLine : Option Int := none
  endColumn : Option Int := none

/-- A value that may be absent. -/
def optionJson {α : Type} (toJson : α → Json) : Option α → Json
  | some a => toJson a
  | none => .null

/-- The finding that an input describes. -/
def IssueInput.toIssue (i : IssueInput) : Except Fault Issue :=
  Issue.ofJson (.object [
    ("kind", .string i.kind),
    ("variant", optionJson .string i.variant),
    ("message", .string i.message),
    ("severity", optionJson .string i.severity),
    ("line", .int i.line),
    ("column", .int i.column),
    ("end_line", optionJson .int i.endLine),
    ("end_column", optionJson .int i.endColumn)])

/-- A request to score one unit. -/
structure UnitScoreRequest where
  issues : List IssueInput := []
  linesOfCode : Int := 0

/-- A unit in a request. -/
structure UnitInput where
  issues : List IssueInput := []
  linesOfCode : Int := 0
  complexity : Binary64 := .finite 0
  unitId : String := ""
  unitName : String := ""

/-- The sample that an input describes. -/
def UnitInput.toSample (u : UnitInput) : Except Fault (UnitSample Number) := do
  return { issues := ← u.issues.mapM IssueInput.toIssue, linesOfCode := .int u.linesOfCode,
           complexity := .float u.complexity, unitId := u.unitId, unitName := u.unitName }

/-- A request to score a group. -/
structure GroupScoreRequest where
  units : List UnitInput := []
  groupId : String := ""
  groupName : String := ""

/-- The record of a group in a request. -/
structure GroupInput where
  groupId : String := ""
  groupName : String := ""
  totalIssues : Int := 0
  unitsWithIssues : Int := 0
  unitsWithCriticalIssues : Int := 0
  totalUnits : Int := 0
  distinctKinds : List String := []
  qualityScore : Binary64 := .finite 100
  complexityScore : Binary64 := .finite 0

/-- The record that an input describes. -/
def GroupInput.toRecord (g : GroupInput) : Except Fault (GroupRecord Number) :=
  GroupRecord.ofJson (.object [
    ("group_id", .string g.groupId),
    ("group_name", .string g.groupName),
    ("total_issues", .int g.totalIssues),
    ("units_with_issues", .int g.unitsWithIssues),
    ("units_with_critical_issues", .int g.unitsWithCriticalIssues),
    ("total_units", .int g.totalUnits),
    ("distinct_issue_kinds", .array (g.distinctKinds.map Json.string)),
    ("quality_score", .float g.qualityScore),
    ("complexity_score", .float g.complexityScore)])

/-- A request to score a system: the records of its groups. -/
structure SystemScoreRequest where
  groups : List GroupInput := []

/-- A request to scan an export, given in the request or as a file. -/
structure ScanRequest where
  flowsPath : Option String := none
  flows : Option (List Json) := none
  detectionLevel : Option Int := none
  persist : Bool := false
  notify : Bool := false

end FlowLint
