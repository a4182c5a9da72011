import FlowLint.Fault
import FlowLint.Json.Value

/-!
# Kinds of leftovers

The closed vocabularies of findings: what was found, how serious it is, and which placeholder it
was. Each word has one name, by which it is written and read.
-/

namespace FlowLint

/-- How serious a finding is. -/
inductive Severity where
  | warning | info
  deriving Repr, DecidableEq, Inhabited

/-- Which placeholder a hardcoded value is. -/
inductive Placeholder where
  | test | debug | temp | number
  deriving Repr, DecidableEq, Inhabited

/-- What was left over. -/
inductive IssueKind where
  | emptyReturn
  | consoleOutput
  | hostWarning
  | debuggerStatement
  | unusedDeclaration
  | todoComment
  | placeholderValue
  | blankRun
  | commentedOutCode
  deriving Repr, DecidableEq, Inhabited

/-- The word of a vocabulary that a value names. -/
def wordOf {α : Type} (vocabulary : String) (words : List α) (name : α → String) (j : Json) :
    Except Fault α :=
  let found := match j with
    | .string s => words.find? fun w => name w = s
    | _ => none
  match found with
  | some w => .ok w
  | none => .error (.unknown j.quoted vocabulary)

namespace Severity

def all : List Severity := [warning, info]

def name : Severity → String
  | warning => "warning"
  | info => "info"

def ofJson (j : Json) : Except Fault Severity :=
  wordOf "Severity" all name j

end Severity

namespace Placeholder

def all : List Placeholder := [test, debug, temp, number]

def name : Placeholder → String
  | test => "test"
  | debug => "debug"
  | temp => "temp"
  | number => "number"

def ofJson (j : Json) : Except Fault Placeholder :=
  wordOf "SentinelVariant" all name j

end Placeholder

namespace IssueKind

/-- All kinds, in the order in which they are listed. -/
def all : List IssueKind :=
  [emptyReturn, consoleOutput, hostWarning, debuggerStatement, unusedDeclaration, todoComment,
    placeholderValue, blankRun, commentedOutCode]

def name : IssueKind → String
  | emptyReturn => "top-level-empty-return"
  | consoleOutput => "console-output-call"
  | hostWarning => "host-warn-call"
  | debuggerStatement => "debugger-statement"
  | unusedDeclaration => "unused-declaration"
  | todoComment => "todo-or-fixme-comment"
  | placeholderValue => "hardcoded-sentinel-value"
  | blankRun => "excessive-blank-run"
  | commentedOutCode => "commented-out-code-run"

def ofJson (j : Json) : Except Fault IssueKind :=
  wordOf "IssueKind" all name j

/-- The severity of a kind unless a finding says otherwise. -/
def severity : IssueKind → Severity
  | emptyReturn | debuggerStatement | placeholderValue => .warning
  | consoleOutput | hostWarning | unusedDeclaration | todoComment | blankRun
  | commentedOutCode => .info

/-- The lowest detection level at which a kind is reported. -/
def level : IssueKind → Int
  | emptyReturn => 1
  | placeholderValue | blankRun => 3
  | consoleOutput | hostWarning | debuggerStatement | unusedDeclaration | todoComment
  | commentedOutCode => 2

end IssueKind

end FlowLint
