import FlowLint.Program.Reader.Statement
import FlowLint.Script.Unit

/-!
# Reading a script

`read` turns a text into its concrete syntax. It is the reader of the running program, and only
one of many: what is said about units and scans is said for every reader. Decorators and import
attributes are not read.

Constructs may nest up to a limit, in the text as well as in the tree, so that a long chain of
operators counts like deep nesting.
-/

namespace FlowLint.Script

namespace Concrete

mutual

/-- Number of nodes on the longest path from the root. -/
def depth : Concrete → Nat
  | node _ _ _ _ cs => depthAll cs + 1

/-- Depth of the deepest of several trees. -/
def depthAll : List Concrete → Nat
  | [] => 0
  | c :: cs => max (depth c) (depthAll cs)

end

mutual

/-- A shorthand property with a default, `{a = 1}`, is only meaningful in a pattern. This finds
one left in an object expression. -/
def misplacedDefault : Concrete → Bool
  | node k _ _ _ cs => misplacedDefaultIn (k == .object) cs

/-- `misplacedDefault` for the children of a node that is an object expression or not. -/
def misplacedDefaultIn (inObject : Bool) : List Concrete → Bool
  | [] => false
  | c :: cs =>
    (inObject && c.kind == .objectAssignmentPattern) || misplacedDefault c
      || misplacedDefaultIn inObject cs

end

end Concrete

/-- The readers for constructs that may nest a number of levels. -/
def Grammar.ofDepth : Nat → Grammar
  | 0 => .exhausted
  | n + 1 =>
    let inner := ofDepth n
    { expression := inner.expressionWith
      operand := inner.operandWith
      construct := inner.constructWith
      element := inner.elementWith
      statement := inner.statementWith }

/-- A whole script: an optional interpreter line and statements up to the end. The node starts at
the first token or comment and ends with the text. -/
def program (limit : Nat) : Reader Concrete := do
  let gap := (← get).drop (Cursor.gapLength Text.isGap (← get).rest)
  modify Cursor.toOperand
  if ['#', '!'].isPrefixOf (← get).rest then
    let line := (← get).rest.takeWhile (· != '\n')
    discard (take line.length)
  let body ← (Grammar.ofDepth limit).statements
  let stop ← get
  guard stop.rest.isEmpty
  return .node .program .part ⟨gap.point, stop.point⟩ "" body

/-- The concrete syntax of a script whose constructs nest up to a limit. -/
def read (limit : Nat) : SyntaxReader := fun text =>
  match (program limit).run { rest := text } with
  | none => .error .malformed
  | some (tree, _) =>
    if tree.misplacedDefault then .error .malformed
    else if limit < tree.depth then .error .tooDeep
    else .ok tree

/-- The reader of the program, which follows a thousand levels. -/
def reader : SyntaxReader :=
  read 1000

end FlowLint.Script
