import FlowLint.Quality.Record
import FlowLint.Store.Cell

/-!
# Rows

An entry is what a caller asks to store, with fields of any kind; a row is what the store keeps.
Turning one into the other happens in two steps, each over all columns in their order: first the
values are taken, then the columns that must be given are checked.
-/

namespace FlowLint

/-- The record of a unit to be stored. -/
structure UnitEntry where
  unitId : Json := .string ""
  unitName : Json := .string ""
  issues : List Issue := []
  linesOfCode : Json := .int 0
  complexityScore : Json := .float (.finite 0)
  qualityScore : Json := .float (.finite 100)
  hasCriticalIssue : Json := .bool false

/-- The record of a group to be stored. -/
structure GroupEntry where
  groupId : Json := .string ""
  groupName : Json := .string ""
  totalIssues : Json := .int 0
  unitsWithIssues : Json := .int 0
  unitsWithCriticalIssues : Json := .int 0
  totalUnits : Json := .int 0
  distinctKinds : Json := .array []
  qualityScore : Json := .float (.finite 100)
  complexityScore : Json := .float (.finite 0)
  units : List UnitEntry := []

/-- The record of a system to be stored. -/
structure SystemEntry where
  overallQuality : Json := .float (.finite 100)
  technicalDebt : Json := .float (.finite 0)
  complexity : Json := .float (.finite 0)
  groupCount : Json := .int 0
  affectedUnits : Json := .int 0
  criticalUnits : Json := .int 0

/-- A stored record of a unit. -/
structure UnitRow where
  id : Nat
  groupId : Cell
  unitId : Cell
  unitName : Cell
  issueCount : Nat
  issues : List Json
  linesOfCode : Cell
  complexityScore : Cell
  qualityScore : Cell
  hasCriticalIssue : Bool
  createdAt : String

/-- A stored record of a group. -/
structure GroupRow where
  id : Nat
  groupId : Cell
  groupName : Cell
  totalIssues : Cell
  unitsWithIssues : Cell
  unitsWithCriticalIssues : Cell
  totalUnits : Cell
  distinctKinds : List Json
  qualityScore : Cell
  complexityScore : Cell
  createdAt : String

/-- A stored record of a system. -/
structure SystemRow where
  id : Nat
  overallQuality : Cell
  technicalDebt : Cell
  complexity : Cell
  groupCount : Cell
  affectedUnits : Cell
  criticalUnits : Cell
  createdAt : String

/-- A column that must be given. -/
def Cell.required (column : String) : Option Cell → Except StoreError Cell
  | some c => .ok c
  | none => .error (.missing column)

/-- The value of a parameter as a column keeps it. -/
def Cell.taken (position : Nat) (affinity : Affinity) (j : Json) :
    Except StoreError (Option Cell) := do
  return (← Cell.ofJson position j).map affinity.apply

/-- A flag: zero or one. -/
def flagOf (n : Int) : Except StoreError Bool :=
  if n = 0 then .ok false else if n = 1 then .ok true else .error .notAFlag

/-- The row of a unit. -/
def UnitEntry.toRow (id : Nat) (groupId : Json) (e : UnitEntry) (createdAt : String) :
    Except StoreError UnitRow := do
  let flag ← e.hasCriticalIssue.toInt.mapError .value
  let groupId ← Cell.taken 1 .text groupId
  let unitId ← Cell.taken 2 .text e.unitId
  let unitName ← Cell.taken 3 .text e.unitName
  let linesOfCode ← Cell.taken 6 .integer e.linesOfCode
  let complexityScore ← Cell.taken 7 .real e.complexityScore
  let qualityScore ← Cell.taken 8 .real e.qualityScore
  let _ ← Cell.ofJson 9 (.int flag)
  return {
    id
    groupId := ← Cell.required "unit_quality.group_id" groupId
    unitId := ← Cell.required "unit_quality.unit_id" unitId
    unitName := ← Cell.required "unit_quality.unit_name" unitName
    issueCount := e.issues.length
    issues := e.issues.map Issue.toJson
    linesOfCode := ← Cell.required "unit_quality.lines_of_code" linesOfCode
    complexityScore := ← Cell.required "unit_quality.complexity_score" complexityScore
    qualityScore := ← Cell.required "unit_quality.quality_score" qualityScore
    hasCriticalIssue := ← flagOf flag
    createdAt }

/-- The row of a group. -/
def GroupEntry.toRow (id : Nat) (e : GroupEntry) (createdAt : String) :
    Except StoreError GroupRow := do
  let distinctKinds ← (GroupRecord.listed e.distinctKinds).mapError .value
  let groupId ← Cell.taken 1 .text e.groupId
  let groupName ← Cell.taken 2 .text e.groupName
  let totalIssues ← Cell.taken 3 .integer e.totalIssues
  let unitsWithIssues ← Cell.taken 4 .integer e.unitsWithIssues
  let unitsWithCriticalIssues ← Cell.taken 5 .integer e.unitsWithCriticalIssues
  let totalUnits ← Cell.taken 6 .integer e.totalUnits
  let qualityScore ← Cell.taken 8 .real e.qualityScore
  let complexityScore ← Cell.taken 9 .real e.complexityScore
  return {
    id
    groupId := ← Cell.required "group_quality.group_id" groupId
    groupName := ← Cell.required "group_quality.group_name" groupName
    totalIssues := ← Cell.required "group_quality.total_issues" totalIssues
    unitsWithIssues := ← Cell.required "group_quality.units_with_issues" unitsWithIssues
    unitsWithCriticalIssues :=
      ← Cell.required "group_quality.units_with_critical_issues" unitsWithCriticalIssues
    totalUnits := ← Cell.required "group_quality.total_units" totalUnits
    distinctKinds
    qualityScore := ← Cell.required "group_quality.quality_score" qualityScore
    complexityScore := ← Cell.required "group_quality.complexity_score" complexityScore
    createdAt }

/-- The row of a system. -/
def SystemEntry.toRow (id : Nat) (e : SystemEntry) (createdAt : String) :
    Except StoreError SystemRow := do
  let overallQuality ← Cell.taken 1 .real e.overallQuality
  let technicalDebt ← Cell.taken 2 .real e.technicalDebt
  let complexity ← Cell.taken 3 .real e.complexity
  let groupCount ← Cell.taken 4 .integer e.groupCount
  let affectedUnits ← Cell.taken 5 .integer e.affectedUnits
  let criticalUnits ← Cell.taken 6 .integer e.criticalUnits
  return {
    id
    overallQuality := ← Cell.required "system_quality.overall_quality" overallQuality
    technicalDebt := ← Cell.required "system_quality.technical_debt" technicalDebt
    complexity := ← Cell.required "system_quality.complexity" complexity
    groupCount := ← Cell.required "system_quality.group_count" groupCount
    affectedUnits := ← Cell.required "system_quality.affected_units" affectedUnits
    criticalUnits := ← Cell.required "system_quality.critical_units" criticalUnits
    createdAt }

/-! ## Records as entries -/

/-- The entry of a unit that was scored. -/
def UnitRecord.toEntry (r : UnitRecord Number) : UnitEntry :=
  { unitId := .string r.unitId
    unitName := .string r.unitName
    issues := r.issues
    linesOfCode := r.linesOfCode.toJson
    complexityScore := r.complexityScore.toJson
    qualityScore := r.qualityScore.toJson
    hasCriticalIssue := .bool r.hasCriticalIssue }

/-- The entry of a group that was scored. -/
def GroupRecord.toEntry (r : GroupRecord Number) : GroupEntry :=
  { groupId := .string r.groupId
    groupName := .string r.groupName
    totalIssues := .int r.totalIssues
    unitsWithIssues := .int r.unitsWithIssues
    unitsWithCriticalIssues := .int r.unitsWithCriticalIssues
    totalUnits := .int r.totalUnits
    distinctKinds := .array r.distinctKinds
    qualityScore := r.qualityScore.toJson
    complexityScore := r.complexityScore.toJson
    units := r.units.map UnitRecord.toEntry }

/-- The entry of a system that was scored. -/
def SystemRecord.toEntry (r : SystemRecord Number) : SystemEntry :=
  { overallQuality := r.overallQuality.toJson
    technicalDebt := r.technicalDebt.toJson
    complexity := r.complexity.toJson
    groupCount := .int r.groupCount
    affectedUnits := .int r.affectedUnits
    criticalUnits := .int r.criticalUnits }

/-! ## Rows as objects -/

/-- A row of the history of a unit. -/
def UnitRow.toJson (r : UnitRow) : Json :=
  .object [
    ("created_at", .string r.createdAt),
    ("unit_name", r.unitName.toJson),
    ("issue_count", .int r.issueCount),
    ("lines_of_code", r.linesOfCode.toJson),
    ("complexity_score", r.complexityScore.toJson),
    ("quality_score", r.qualityScore.toJson),
    ("has_critical_issue", .bool r.hasCriticalIssue),
    ("issues", .array r.issues)]

/-- A row of the history of a group. -/
def GroupRow.toJson (r : GroupRow) : Json :=
  .object [
    ("created_at", .string r.createdAt),
    ("quality_score", r.qualityScore.toJson),
    ("complexity_score", r.complexityScore.toJson),
    ("total_issues", r.totalIssues.toJson),
    ("units_with_issues", r.unitsWithIssues.toJson),
    ("units_with_critical_issues", r.unitsWithCriticalIssues.toJson),
    ("total_units", r.totalUnits.toJson)]

/-- The record that a row of a group stands for. -/
def GroupRow.toRecord (r : GroupRow) : Except Fault (GroupRecord Number) :=
  GroupRecord.ofJson (.object [
    ("group_id", r.groupId.toJson),
    ("group_name", r.groupName.toJson),
    ("total_issues", r.totalIssues.toJson),
    ("units_with_issues", r.unitsWithIssues.toJson),
    ("units_with_critical_issues", r.unitsWithCriticalIssues.toJson),
    ("total_units", r.totalUnits.toJson),
    ("distinct_issue_kinds", .array r.distinctKinds),
    ("quality_score", r.qualityScore.toJson),
    ("complexity_score", r.complexityScore.toJson)])

/-- A row of the history of a system. -/
def SystemRow.toJson (r : SystemRow) : Json :=
  .object [
    ("id", .int r.id),
    ("overall_quality", r.overallQuality.toJson),
    ("technical_debt", r.technicalDebt.toJson),
    ("complexity", r.complexity.toJson),
    ("group_count", r.groupCount.toJson),
    ("affected_units", r.affectedUnits.toJson),
    ("critical_units", r.criticalUnits.toJson),
    ("created_at", .string r.createdAt)]

end FlowLint
