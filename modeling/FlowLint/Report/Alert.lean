import FlowLint.Quality.Record
import FlowLint.Report.Text

/-!
# Alerts on a group

An alert tells which units of a group need attention, with its findings sorted into four classes.
-/

namespace FlowLint

/-- The class of a finding in an alert. -/
inductive AlertClass where
  | critical | warning | todo | info
  deriving Repr, DecidableEq, Inhabited

namespace AlertClass

/-- The class of a kind. -/
def ofKind : IssueKind → AlertClass
  | .emptyReturn => critical
  | .hostWarning => warning
  | .todoComment => todo
  | _ => info

/-- All classes, in the order in which they are listed. -/
def all : List AlertClass := [critical, warning, todo, info]

end AlertClass

/-- A count and a word, in the plural unless the count is one. -/
def plural (count : Int) (word : String) : String :=
  integerText count ++ " " ++ word ++ if count = 1 then "" else "s"

/-- The line on a number of findings of a class. -/
def AlertClass.line (count : Nat) : AlertClass → String
  | critical => "**Critical**: " ++ plural count "top-level return statement"
  | warning => "**Warning**: " ++ plural count "node.warn() statement"
  | todo => "**Todo**: " ++ plural count "TODO/FIXME comment"
  | info => "**Info**: " ++ plural count "minor issue" ++ " (hardcoded values, formatting)"

/-- How many findings each class has, leaving out those without any. -/
def alertCounts (issues : List Issue) : List (AlertClass × Nat) :=
  (AlertClass.all.map fun c => (c, issues.countP fun i => AlertClass.ofKind i.kind = c)).filter
    fun row => row.2 != 0

/-- The lines of an alert on one unit. -/
def alertLines (issues : List Issue) : List String :=
  (alertCounts issues).map fun row => row.1.line row.2

/-- What an alert says about one unit. -/
structure AlertUnit where
  name : String
  totalIssues : Nat
  lines : List String
  deriving Repr, DecidableEq, Inhabited

/-- An alert on a group. -/
structure Alert where
  groupId : String
  groupName : String
  totalIssues : Int
  affectedUnits : Int
  text : String
  units : List AlertUnit
  instanceUrl : String
  deriving Repr, DecidableEq, Inhabited

namespace Alert

/-- The address of an instance unless another one is known. -/
def defaultInstance : String := "http://localhost:1880"

/-- What an alert says about the units of a group that have findings. -/
def unitsOf (records : List (UnitRecord Number)) : List AlertUnit :=
  (records.filter fun u => !(alertLines u.issues).isEmpty).map fun u =>
    { name := u.unitName, totalIssues := u.issueCount, lines := alertLines u.issues }

/-- The text on one unit. -/
def unitText (u : AlertUnit) : String :=
  "**" ++ u.name ++ "** (" ++ plural u.totalIssues "issue" ++ ")\n"
    ++ String.join (u.lines.map fun line => "   " ++ line ++ "\n") ++ "\n"

/-- The alert on a group. -/
def ofGroup (record : GroupRecord Number) (instanceUrl : Option String) : Alert :=
  let address := match instanceUrl with
    | some url => if url = "" then defaultInstance else url
    | none => defaultInstance
  let units := unitsOf record.units
  let needs := if record.unitsWithIssues = 1 then "needs" else "need"
  { groupId := record.groupId
    groupName := record.groupName
    totalIssues := record.totalIssues
    affectedUnits := record.unitsWithIssues
    text :=
      "⚠️ **Code Analysis Alert - " ++ plural record.totalIssues "Issue" ++ " Found**\n\n"
        ++ "**Summary**: " ++ plural record.unitsWithIssues "function node" ++ " in flow \""
        ++ record.groupName ++ "\" " ++ needs ++ " attention\n\n"
        ++ String.join (units.map unitText)
        ++ "**Recommended Action**: Review and clean up debugging code before production "
        ++ "deployment\n\n**Node-RED Instance**: " ++ address
    units
    instanceUrl := address }

/-- An alert as an object. -/
def toJson (a : Alert) : Json :=
  .object [
    ("group_id", .string a.groupId),
    ("group_name", .string a.groupName),
    ("total_issues", .int a.totalIssues),
    ("affected_units", .int a.affectedUnits),
    ("text", .string a.text),
    ("units", .array (a.units.map fun u =>
      .object [("name", .string u.name), ("total_issues", .int u.totalIssues),
        ("issues", .array (u.lines.map Json.string))])),
    ("instance_url", .string a.instanceUrl)]

end Alert

end FlowLint
