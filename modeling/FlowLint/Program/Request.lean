import FlowLint.Program.Validation
import FlowLint.Service.Request

/-!
# Shapes of requests

What the program makes of the content of a request, for each address. Fields that are not given have
a default; fields that are not known are left alone.
-/

namespace FlowLint

open Shape

def CheckRequest.shape : Shape CheckRequest :=
  object fun j => CheckRequest.mk
    <$> required "code" string j
    <*> optional "detection_level" (nullable integer) none j
    <*> optional "verbose" (nullable truth) none j
    <*> optional "unit_name" string "input" j
    <*> optional "include_report" truth false j

def IssueInput.shape : Shape IssueInput :=
  object fun j => IssueInput.mk
    <$> required "kind" string j
    <*> optional "variant" (nullable string) none j
    <*> optional "message" string "" j
    <*> optional "severity" (nullable string) none j
    <*> optional "line" integer 1 j
    <*> optional "column" integer 1 j
    <*> optional "end_line" (nullable integer) none j
    <*> optional "end_column" (nullable integer) none j

def UnitScoreRequest.shape : Shape UnitScoreRequest :=
  object fun j => UnitScoreRequest.mk
    <$> optional "issues" (list IssueInput.shape) [] j
    <*> optional "lines_of_code" naturalInteger 0 j

def UnitInput.shape : Shape UnitInput :=
  object fun j => UnitInput.mk
    <$> optional "issues" (list IssueInput.shape) [] j
    <*> optional "lines_of_code" naturalInteger 0 j
    <*> optional "complexity" naturalDouble (.finite 0) j
    <*> optional "unit_id" string "" j
    <*> optional "unit_name" string "" j

def GroupScoreRequest.shape : Shape GroupScoreRequest :=
  object fun j => GroupScoreRequest.mk
    <$> optional "units" (list UnitInput.shape) [] j
    <*> optional "group_id" string "" j
    <*> optional "group_name" string "" j

def GroupInput.shape : Shape GroupInput :=
  object fun j => GroupInput.mk
    <$> optional "group_id" string "" j
    <*> optional "group_name" string "" j
    <*> optional "total_issues" integer 0 j
    <*> optional "units_with_issues" integer 0 j
    <*> optional "units_with_critical_issues" integer 0 j
    <*> optional "total_units" integer 0 j
    <*> optional "distinct_issue_kinds" (list string) [] j
    <*> optional "quality_score" double (.finite 100) j
    <*> optional "complexity_score" double (.finite 0) j

def SystemScoreRequest.shape : Shape SystemScoreRequest :=
  object fun j => SystemScoreRequest.mk <$> optional "groups" (list GroupInput.shape) [] j

def ScanRequest.shape : Shape ScanRequest :=
  object fun j => ScanRequest.mk
    <$> optional "flows_path" (nullable string) none j
    <*> optional "flows" (nullable (list anyObject)) none j
    <*> optional "detection_level" (nullable integer) none j
    <*> optional "persist" truth false j
    <*> optional "notify" truth false j

/-- The number of rows that a request for a history asks for. -/
def limitShape : Shape Int := fun j =>
  ((integer j).ensure (1 ≤ ·) .greaterThanEqual).ensure (· ≤ 500) .lessThanEqual

end FlowLint
