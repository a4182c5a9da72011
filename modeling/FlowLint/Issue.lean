import FlowLint.Issue.Kind
import FlowLint.Json.Convert
import FlowLint.Source

/-!
# Findings

An issue is one leftover found in a unit. `Issue.toJson` writes it as a flat object and
`Issue.ofJson` reads it back; there only the kind must be given.
-/

namespace FlowLint

/-- One leftover found in a unit. The message is a text, unless it was read from foreign data. -/
structure Issue where
  kind : IssueKind
  message : Json
  range : SourceRange
  severity : Severity
  variant : Option Placeholder := none

namespace Issue

/-- A finding with the severity of its kind. -/
def found (kind : IssueKind) (message : String) (range : SourceRange)
    (variant : Option Placeholder) : Issue :=
  { kind, message := .string message, range, severity := kind.severity, variant }

/-- The line where a finding starts. -/
def line (i : Issue) : Int := i.range.start.line

/-- The column where a finding starts. -/
def column (i : Issue) : Int := i.range.start.column

/-- The line where a finding ends. -/
def endLine (i : Issue) : Int := i.range.stop.line

/-- The column where a finding ends. -/
def endColumn (i : Issue) : Int := i.range.stop.column

/-- A finding as a flat object. -/
def toJson (i : Issue) : Json :=
  .object [
    ("kind", .string i.kind.name),
    ("variant", match i.variant with
      | some v => .string v.name
      | none => .null),
    ("message", i.message),
    ("severity", .string i.severity.name),
    ("line", .int i.line),
    ("column", .int i.column),
    ("end_line", .int i.endLine),
    ("end_column", .int i.endColumn)]

/-- A whole number of a member; a default stands for one that is not given. -/
def wholeMember (data : Json) (key : String) (fallback : Int) : Except Fault Int :=
  ((data.get? key).getD (.int fallback)).toInt

/-- A whole number of a member; a default stands for one that is not given or counts as not
given. -/
def wholeMemberOr (data : Json) (key : String) (fallback : Int) : Except Fault Int :=
  if (data.field key).truthy then (data.field key).toInt else .ok fallback

/-- The finding that an object describes. Where it ends and how serious it is may be left out. -/
def ofJson (data : Json) : Except Fault Issue := do
  let .object _ := data | throw .wrongType
  let some word := data.get? "kind" | throw (.missing "kind")
  let kind ← IssueKind.ofJson word
  let line ← wholeMember data "line" 1
  let column ← wholeMember data "column" 1
  let endLine ← wholeMemberOr data "end_line" line
  let endColumn ← wholeMemberOr data "end_column" column
  let severity ←
    if (data.field "severity").truthy then Severity.ofJson (data.field "severity")
    else pure kind.severity
  let variant ←
    if (data.field "variant").truthy then some <$> Placeholder.ofJson (data.field "variant")
    else pure none
  return { kind, message := (data.get? "message").getD (.string ""),
           range := .ofLines line column endLine endColumn, severity, variant }

end Issue

end FlowLint
