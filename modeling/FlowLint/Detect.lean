import FlowLint.Rule

/-!
# Finding leftovers in a unit

A detector takes any value as source and as level: what is not a text has no findings, and a level
is brought into the range from 1 to 3. A text that cannot be read has no findings either. A
literal that has no value is an error.

The stack is not modelled, but for a text that its reader finds too deep: like any text that cannot
be read, it has no findings.
-/

namespace FlowLint

open Script

/-- The level unless another one is asked for. -/
def defaultLevel : Int := 2

/-- A detection level from 1 to 3. -/
def clampLevel (level : Json) : Except Fault Int :=
  level.clamped 1 3 defaultLevel

/-- Why no findings can be given. -/
inductive DetectError where
  | level (cause : Fault)
  | literal (cause : LiteralError)
  deriving Repr, DecidableEq

/-- Findings, and notes on how they came about. -/
structure Detection where
  issues : List Issue := []
  notes : List LogEntry := []

/-- What the rules look at, for the tree of a unit. -/
def contextFor (profile : HostProfile) (level : Int) (text : List Char) (program : Node) :
    Context :=
  let lines := splitLines text
  { lines, program, level, profile
    suppression := Directive.suppression profile.directiveMarker lines }

/-- The findings and notes of a context. -/
def detectionOf (ctx : Context) (wrapped : Bool) : Detection :=
  let events := ruleEvents ctx
  let issues := events.filterMap Event.issue?
  let note (text : String) : LogEntry := ⟨.debug, text⟩
  let first :=
    if wrapped then
      [note ("Unit returns at top level; analyzed inside " ++ ctx.profile.wrapperName ++ "()")]
    else []
  { issues
    notes := first ++ events.filterMap (·.note?.map note)
      ++ [note ("Found " ++ digitsText issues.length ++ " issue(s) at level "
            ++ integerText ctx.level)] }

/-- The note on a text that cannot be read. -/
def unreadableNote : LogEntry :=
  ⟨.warning, "Skipping unit that failed to parse"⟩

/-- How units are looked at: who reads them, and in which host they run. -/
structure Detector where
  reader : SyntaxReader
  profile : HostProfile := {}

namespace Detector

variable (d : Detector)

/-- The findings in a text at a level. -/
def detectText (level : Int) (text : List Char) : Except LiteralError Detection :=
  match buildWith d.reader d.profile.wrapperName text with
  | .ok unit => .ok (detectionOf (contextFor d.profile level text unit.program) unit.wrapped)
  | .error (.literal e) => .error e
  | .error _ => .ok { notes := [unreadableNote] }

/-- The findings in a source. -/
def detect (source level : Json) : Except DetectError Detection :=
  match source with
  | .string text =>
    if text = "" then .ok {}
    else
      match clampLevel level with
      | .error e => .error (.level e)
      | .ok n =>
        match d.detectText n text.toList with
        | .error e => .error (.literal e)
        | .ok found => .ok found
  | _ => .ok {}

/-- The findings in several sources, by their names. -/
def detectUnits (sources : List (String × Json)) (level : Json) :
    Except DetectError (List (String × List Issue)) :=
  sources.mapM fun (id, source) => do
    return (id, (← d.detect source level).issues)

end Detector

end FlowLint
