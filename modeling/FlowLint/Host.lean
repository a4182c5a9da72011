import FlowLint.Script.Unit
import FlowLint.Suppression

/-!
# Host profiles

The names that the host of a unit provides, which rules treat in a special way.
-/

namespace FlowLint

/-- What the host of a unit calls things. -/
structure HostProfile where
  /-- The object whose methods write to the console. -/
  consoleObject : String := "console"
  /-- The object that stands for the node itself. -/
  nodeObject : String := "node"
  /-- The method of the node that writes a warning. -/
  warnMethod : String := "warn"
  /-- Names that the host provides; declaring one is not reported as unused. -/
  ambientGlobals : List String := ["msg", "node", "context", "flow", "global", "env", "RED"]
  /-- The function that a unit with a top-level return is wrapped in. -/
  wrapperName : String := Script.defaultWrapper
  /-- The marker of suppression directives. -/
  directiveMarker : String := Directive.defaultMarker
  /-- Names that start with this text are meant to be unused. -/
  unusedMark : String := "_"
  deriving Repr, DecidableEq, Inhabited

end FlowLint
