import FlowLint.Issue
import FlowLint.Number.Mixed

/-!
# Quality records

What scoring takes and gives: a sample of one unit, the record of a unit, of a group of units
and of the whole system. Numbers are of any type `α`; records that are exchanged hold `Number`s.
-/

namespace FlowLint

/-- What the score of a unit depends on. -/
structure UnitSample (α : Type) where
  issues : List Issue := []
  linesOfCode : α
  complexity : α
  unitId : String := ""
  unitName : String := ""

/-- The score of one unit. -/
structure UnitRecord (α : Type) where
  unitId : String
  unitName : String
  issues : List Issue
  linesOfCode : α
  complexityScore : α
  qualityScore : α
  hasCriticalIssue : Bool

/-- The score of a group of units. -/
structure GroupRecord (α : Type) where
  groupId : String := ""
  groupName : String := ""
  totalIssues : Int := 0
  unitsWithIssues : Int := 0
  unitsWithCriticalIssues : Int := 0
  totalUnits : Int := 0
  /-- The kinds that occur, in the order in which they are first seen. -/
  distinctKinds : List Json := []
  qualityScore : α
  complexityScore : α
  units : List (UnitRecord α) := []

/-- The score of a whole system. -/
structure SystemRecord (α : Type) where
  overallQuality : α
  technicalDebt : α
  complexity : α
  groupCount : Int
  affectedUnits : Int
  criticalUnits : Int

/-- How many findings a unit has. -/
def UnitRecord.issueCount {α : Type} (r : UnitRecord α) : Nat :=
  r.issues.length

/-- The record of a unit as an object. -/
def UnitRecord.toJson (r : UnitRecord Number) : Json :=
  .object [
    ("unit_id", .string r.unitId),
    ("unit_name", .string r.unitName),
    ("issues", .array (r.issues.map Issue.toJson)),
    ("issue_count", .int r.issueCount),
    ("lines_of_code", r.linesOfCode.toJson),
    ("complexity_score", r.complexityScore.toJson),
    ("quality_score", r.qualityScore.toJson),
    ("has_critical_issue", .bool r.hasCriticalIssue)]

namespace GroupRecord

/-- The members of the record of a group, without its units. -/
def summary (r : GroupRecord Number) : List (String × Json) :=
  [("group_id", .string r.groupId),
    ("group_name", .string r.groupName),
    ("total_issues", .int r.totalIssues),
    ("units_with_issues", .int r.unitsWithIssues),
    ("units_with_critical_issues", .int r.unitsWithCriticalIssues),
    ("total_units", .int r.totalUnits),
    ("distinct_issue_kinds", .array r.distinctKinds),
    ("quality_score", r.qualityScore.toJson),
    ("complexity_score", r.complexityScore.toJson)]

/-- The records of the units of a group. -/
def unitMembers (r : GroupRecord Number) : List (String × Json) :=
  [("unit_records", .array (r.units.map UnitRecord.toJson))]

/-- The record of a group as an object. -/
def toJson (r : GroupRecord Number) : Json :=
  .object (r.summary ++ r.unitMembers)

/-- The items of a list, the characters of a text or the names of an object. -/
def listed : Json → Except Fault (List Json)
  | .array items => .ok items
  | .string s => .ok (s.toList.map fun c => .string (String.ofList [c]))
  | .object ms => .ok (ms.map fun m => .string m.1)
  | _ => .error .wrongType

/-- The record of a group from an object; units are not restored. -/
def ofJson (data : Json) : Except Fault (GroupRecord Number) := do
  let .object _ := data | throw .notAnObject
  let text (key : String) : String := ((data.get? key).getD (.string "")).text
  let count (key : String) : Except Fault Int := ((data.get? key).getD (.int 0)).toInt
  let totalIssues ← count "total_issues"
  let unitsWithIssues ← count "units_with_issues"
  let unitsWithCriticalIssues ← count "units_with_critical_issues"
  let totalUnits ← count "total_units"
  let kinds := data.field "distinct_issue_kinds"
  let distinctKinds ← if kinds.truthy then listed kinds else pure []
  let qualityScore ← ((data.get? "quality_score").getD (.int 100)).toBinary64
  let complexityScore ← ((data.get? "complexity_score").getD (.int 0)).toBinary64
  return { groupId := text "group_id", groupName := text "group_name", totalIssues,
           unitsWithIssues, unitsWithCriticalIssues, totalUnits, distinctKinds,
           qualityScore := .float qualityScore, complexityScore := .float complexityScore }

end GroupRecord

/-- The record of a system as an object. -/
def SystemRecord.toJson (r : SystemRecord Number) : Json :=
  .object [
    ("overall_quality", r.overallQuality.toJson),
    ("technical_debt", r.technicalDebt.toJson),
    ("complexity", r.complexity.toJson),
    ("group_count", .int r.groupCount),
    ("affected_units", .int r.affectedUnits),
    ("critical_units", .int r.criticalUnits)]

end FlowLint
