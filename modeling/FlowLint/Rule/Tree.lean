import FlowLint.Rule.Remark
import FlowLint.Script.Tree

/-!
# Rules on single nodes

These rules look at one node and its ancestors at a time, so that one walk over the tree serves
all of them.

* `returnRemarks`: a return without a value that always ends the whole unit.
* `outputRemarks`: console output, warnings of the host and breakpoints.
* `placeholderRemarks`: a placeholder value stored in a variable.
-/

namespace FlowLint

open Script

/-! ## Returns -/

/-- Where a return stands. -/
inductive Standing where
  /-- In a function of the unit that starts on the given line. -/
  | nested (line : Int)
  /-- At top level, but inside a control structure. -/
  | conditional
  /-- At top level, where it is always reached. -/
  | unconditional
  deriving Repr, DecidableEq, Inhabited

/-- Where a node stands, given its ancestors from the innermost one outward. -/
def standing : List Node → Standing
  | [] => .unconditional
  | .control .. :: outer | .catchClause .. :: outer =>
    match standing outer with
    | .nested line => .nested line
    | _ => .conditional
  | .function _ _ _ _ synthetic range :: _ =>
    if synthetic then .unconditional else .nested range.start.line
  | .program .. :: _ => .unconditional
  | _ :: outer => standing outer

/-- A return without a value that always ends the whole unit. -/
def returnRemarks (v : Visit) : List Remark :=
  match v.1 with
  | .returns none range =>
    match standing v.2.reverse with
    | .nested line =>
      [.note ("Return at " ++ integerText line ++ " is inside a nested function")]
    | .conditional => [.note "Return is inside a control structure; not flagged"]
    | .unconditional =>
      [.finding (.found .emptyReturn "Remove this top-level return statement" range none)]
  | _ => []

/-! ## Debug output -/

/-- The object and the method of a call such as `console.log(x)`. -/
def methodCall? : Node → Option (String × String)
  | .call (some (.member (some (.identifier owner _)) (some (.propertyName method _)) false _))
      _ false _ => some (owner, method)
  | _ => none

/-- What to tell about debug output. -/
def outputMessage (owner method : String) : String :=
  "Remove this " ++ owner ++ "." ++ method ++ "() debugging statement"

/-- Console output, warnings of the host and breakpoints. -/
def outputRemarks (profile : HostProfile) (v : Visit) : List Remark :=
  match v.1, methodCall? v.1 with
  | .debugger range, _ =>
    [.finding (.found .debuggerStatement "Remove this debugger statement" range none)]
  | n, some (owner, method) =>
    if owner = profile.consoleObject then
      [.finding (.found .consoleOutput (outputMessage owner method) n.range none)]
    else if owner = profile.nodeObject && method = profile.warnMethod then
      [.finding (.found .hostWarning (outputMessage owner method) n.range none)]
    else []
  | _, none => []

/-! ## Placeholders -/

/-- The lower case of an ASCII letter; other code points stay. -/
def lowerAscii (n : Nat) : Nat :=
  if 0x41 ≤ n && n ≤ 0x5A then n + 0x20 else n

/-- Do code points spell a word, in any case of letters? -/
def spells (word : String) (points : List Nat) : Bool :=
  points.map lowerAscii == word.toList.map Char.toNat

/-- The placeholder that a literal is. -/
def placeholder? : Literal → Option Placeholder
  | .string points => [.test, .debug, .temp].find? fun p : Placeholder => spells p.name points
  | .number (some x) => if x = .finite 123 then some .number else none
  | _ => none

/-- What to tell about a placeholder. -/
def placeholderMessage : Placeholder → String
  | .number => "Remove hardcoded test number"
  | word => "Remove hardcoded " ++ word.name ++ " value"

/-- The value that a node stores in a variable. -/
def storedValue? : Node → Option Node
  | .declarator _ init _ => init
  | .assignment _ value _ _ => value
  | _ => none

/-- A placeholder value stored in a variable. -/
def placeholderRemarks (v : Visit) : List Remark :=
  match storedValue? v.1 with
  | some (.literal value _ range) =>
    match placeholder? value with
    | some p => [.finding (.found .placeholderValue (placeholderMessage p) range (some p))]
    | none => []
  | _ => []

end FlowLint
