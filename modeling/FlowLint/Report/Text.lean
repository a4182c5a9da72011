import FlowLint.Quality.Grade

/-!
# Reports as text

Reports for people to read: on the findings in a unit, on a group and on the whole system.
-/

namespace FlowLint.Report

/-- Lines joined into one text. -/
def joinLines (lines : List String) : String :=
  "\n".intercalate lines

/-- A rule across the page. -/
def rule (c : Char) : String :=
  String.ofList (List.replicate 80 c)

/-- A count as text. -/
def count (n : Nat) : String :=
  digitsText n

/-- The lines on one finding. -/
def issueLines (i : Issue) : List String :=
  ["  Line " ++ integerText i.line ++ ", column " ++ integerText i.column ++ ": "
      ++ i.message.text,
    "    Kind: " ++ i.kind.name ++ "\n"]

/-- The lines on the findings of one severity; none if there are none. -/
def issueSection (title : String) (issues : List Issue) : List String :=
  if issues.isEmpty then []
  else [title ++ " (" ++ count issues.length ++ "):", rule '-'] ++ issues.flatMap issueLines

/-- The report on the findings in a unit. -/
def ofUnit (issues : List Issue) (unitName : String) : String :=
  if issues.isEmpty then "\n✓ No debugging leftovers found in " ++ unitName ++ "\n"
  else
    let warnings := issues.filter (·.severity = .warning)
    let infos := issues.filter (·.severity = .info)
    joinLines (["\n" ++ rule '=', "Debugging Leftover Report: " ++ unitName, rule '=' ++ "\n"]
      ++ issueSection "WARNINGS" warnings ++ issueSection "INFO" infos
      ++ ["\nSummary: " ++ count warnings.length ++ " warnings, " ++ count infos.length ++ " info",
          rule '='])

/-- How many findings there are of each kind, in the order in which kinds are first seen. -/
def tally (issues : List Issue) : List (IssueKind × Nat) :=
  (firstSeen (issues.map Issue.kind)).map fun kind => (kind, issues.countP (·.kind = kind))

/-- The line on one unit of a group. -/
def unitLine (u : UnitRecord Number) : String :=
  let mark := if u.hasCriticalIssue then "!" else if u.issues.isEmpty then " " else "*"
  " " ++ mark ++ " " ++ u.unitName ++ ": " ++ u.qualityScore.fixed 2 ++ " ("
    ++ count u.issueCount ++ " issues)"

/-- The lines on one piece of advice. -/
def adviceLines (r : Recommendation) : List String :=
  ["  [" ++ r.category ++ "] " ++ r.message, "    Action: " ++ r.action]

/-- The report on a group. -/
def ofGroup (report : GroupReport Number) : String :=
  let r := report.record
  let title := if r.groupName = "" then r.groupId else r.groupName
  joinLines (["\n" ++ rule '=',
      "Flow Quality Report: " ++ title,
      rule '=' ++ "\n",
      "Grade: " ++ report.grade.letter ++ " (" ++ report.grade.description ++ ")",
      "Quality score: " ++ r.qualityScore.fixed 2,
      "Complexity: " ++ r.complexityScore.fixed 2,
      "Units: " ++ integerText r.totalUnits ++ " total, " ++ integerText r.unitsWithIssues
        ++ " with issues, " ++ integerText r.unitsWithCriticalIssues ++ " critical",
      "Health: " ++ integerText report.healthPercentage ++ "%\n"]
    ++ r.units.map unitLine
    ++ (if report.recommendations.isEmpty then []
        else ["\nRecommendations:", rule '-'] ++ report.recommendations.flatMap adviceLines)
    ++ [rule '='])

/-- The summary of a system in one line. -/
def ofSystem (s : SystemRecord Number) : String :=
  "Overall quality " ++ s.overallQuality.fixed 2 ++ ", technical debt " ++ s.technicalDebt.fixed 2
    ++ ", complexity " ++ s.complexity.fixed 2 ++ " across " ++ integerText s.groupCount
    ++ " flows (" ++ integerText s.affectedUnits ++ " affected, " ++ integerText s.criticalUnits
    ++ " critical)"

end FlowLint.Report
