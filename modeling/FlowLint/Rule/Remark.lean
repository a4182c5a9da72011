import FlowLint.Host
import FlowLint.Issue
import FlowLint.Log

/-!
# What rules say

A rule looks at a unit and makes remarks: findings, and notes on why something was not one. What
becomes of a finding is decided in one place, `Context.accept`: it is dropped if its kind is above
the level, or if a directive covers the line where it starts.
-/

namespace FlowLint

/-- What a rule says about a unit. -/
inductive Remark where
  | finding (issue : Issue)
  | note (text : String)

/-- What is left of a remark after level and directives were applied. -/
inductive Event where
  | found (issue : Issue)
  | note (text : String)

/-- The finding of an event. -/
def Event.issue? : Event → Option Issue
  | found i => some i
  | note _ => none

/-- The note of an event. -/
def Event.note? : Event → Option String
  | found _ => none
  | note text => some text

/-- Everything that rules may look at. -/
structure Context where
  lines : List Line
  program : Script.Node
  suppression : Suppression := {}
  level : Int
  profile : HostProfile := {}

namespace Context

/-- The note on a finding that was dropped because of a directive. -/
def suppressedNote (i : Issue) : Event :=
  .note ("Suppressed " ++ i.kind.name ++ " on line " ++ integerText i.line)

/-- What becomes of a remark. -/
def accept (ctx : Context) : Remark → List Event
  | .note text => [.note text]
  | .finding i =>
    if ctx.level < i.kind.level then []
    else if ctx.suppression.covers i.line then [suppressedNote i]
    else [.found i]

end Context

end FlowLint
