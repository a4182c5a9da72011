import FlowLint.Number.Binary64
import FlowLint.Source

/-!
# The syntax tree that rules see

A tree of typed nodes. It tells apart what the rules need (functions, declarations, patterns,
calls, members, returns, control structures) and keeps all else as `other` with its grammar name.

* `Node.children` lists the nodes directly below a node, left to right.
* `walk` lists every node with its ancestors, outermost first, working through an explicit stack.
-/

namespace FlowLint.Script

/-- How a function is written. -/
inductive FunctionKind where
  | declaration | expression | arrow | method
  deriving Repr, DecidableEq, Inhabited

/-- Statements that run their parts conditionally or repeatedly. -/
inductive ControlKind where
  | branch | loop | loopOver | whileLoop | doLoop | choice | attempt | withObject
  deriving Repr, DecidableEq, Inhabited

/-- Destructuring patterns. -/
inductive PatternKind where
  | object | array | rest
  deriving Repr, DecidableEq, Inhabited

/-- The value of a literal. A number whose text has no value keeps none. -/
inductive Literal where
  | string (points : List Nat)
  | number (value : Option Binary64)
  | bigInteger
  | boolean (value : Bool)
  | null
  | regex
  deriving Repr, DecidableEq, Inhabited

/-- A node of the tree. -/
inductive Node where
  | program (body : List Node) (range : SourceRange)
  | block (body : List Node) (range : SourceRange)
  /-- A name that binds or refers. -/
  | identifier (name : String) (range : SourceRange)
  /-- A property key, member property or label. It never refers. -/
  | propertyName (name : String) (range : SourceRange)
  | literal (value : Literal) (raw : String) (range : SourceRange)
  /-- A function. The synthetic one wraps a unit that returns at top level. -/
  | function (kind : FunctionKind) (name : Option Node) (params : List Node) (body : Option Node)
      (synthetic : Bool) (range : SourceRange)
  | classNode (name : Option Node) (declared : Bool) (heritage : Option Node)
      (members : List Node) (range : SourceRange)
  | declarator (target init : Option Node) (range : SourceRange)
  | declaration (keyword : String) (declarators : List Node) (range : SourceRange)
  | pattern (kind : PatternKind) (elements : List Node) (range : SourceRange)
  | patternProperty (key value : Option Node) (range : SourceRange)
  | assignmentPattern (target fallback : Option Node) (range : SourceRange)
  | assignment (target value : Option Node) (operator : String) (range : SourceRange)
  | call (callee : Option Node) (arguments : List Node) (constructs : Bool) (range : SourceRange)
  | member (object property : Option Node) (computed : Bool) (range : SourceRange)
  | returns (argument : Option Node) (range : SourceRange)
  | debugger (range : SourceRange)
  | control (kind : ControlKind) (parts : List Node) (range : SourceRange)
  | catchClause (param body : Option Node) (range : SourceRange)
  | other (kind : String) (parts : List Node) (range : SourceRange)
  deriving Inhabited

namespace Node

/-- Where a node stands. -/
def range : Node → SourceRange
  | program _ r | block _ r | identifier _ r | propertyName _ r | literal _ _ r
  | function _ _ _ _ _ r | classNode _ _ _ _ r | declarator _ _ r | declaration _ _ r
  | pattern _ _ r | patternProperty _ _ r | assignmentPattern _ _ r | assignment _ _ _ r
  | call _ _ _ r | member _ _ _ r | returns _ r | debugger r | control _ _ r | catchClause _ _ r
  | other _ _ r => r

/-- The line where a node starts. -/
def line (n : Node) : Int :=
  n.range.start.line

/-- The nodes directly below a node, left to right. -/
def children : Node → List Node
  | program body _ | block body _ => body
  | identifier _ _ | propertyName _ _ | literal _ _ _ | debugger _ => []
  | function _ name params body _ _ => name.toList ++ params ++ body.toList
  | classNode name _ heritage members _ => name.toList ++ heritage.toList ++ members
  | declarator target init _ => target.toList ++ init.toList
  | declaration _ declarators _ => declarators
  | pattern _ elements _ => elements
  | patternProperty key value _ => key.toList ++ value.toList
  | assignmentPattern target fallback _ => target.toList ++ fallback.toList
  | assignment target value _ _ => target.toList ++ value.toList
  | call callee arguments _ _ => callee.toList ++ arguments
  | member object property _ _ => object.toList ++ property.toList
  | returns argument _ => argument.toList
  | control _ parts _ => parts
  | catchClause param body _ => param.toList ++ body.toList
  | other _ parts _ => parts

/-- Is a node a function? -/
def isFunction : Node → Bool
  | function .. => true
  | _ => false

/-! ## Size -/

mutual

/-- The number of nodes of a tree. -/
def size : Node → Nat
  | program body _ | block body _ => sizeAll body + 1
  | identifier _ _ | propertyName _ _ | literal _ _ _ | debugger _ => 1
  | function _ name params body _ _ => sizeOpt name + sizeAll params + sizeOpt body + 1
  | classNode name _ heritage members _ => sizeOpt name + sizeOpt heritage + sizeAll members + 1
  | declarator target init _ => sizeOpt target + sizeOpt init + 1
  | declaration _ declarators _ => sizeAll declarators + 1
  | pattern _ elements _ => sizeAll elements + 1
  | patternProperty key value _ => sizeOpt key + sizeOpt value + 1
  | assignmentPattern target fallback _ => sizeOpt target + sizeOpt fallback + 1
  | assignment target value _ _ => sizeOpt target + sizeOpt value + 1
  | call callee arguments _ _ => sizeOpt callee + sizeAll arguments + 1
  | member object property _ _ => sizeOpt object + sizeOpt property + 1
  | returns argument _ => sizeOpt argument + 1
  | control _ parts _ => sizeAll parts + 1
  | catchClause param body _ => sizeOpt param + sizeOpt body + 1
  | other _ parts _ => sizeAll parts + 1

/-- The number of nodes of several trees. -/
def sizeAll : List Node → Nat
  | [] => 0
  | n :: ns => size n + sizeAll ns

/-- The number of nodes of a tree that may be absent. -/
def sizeOpt : Option Node → Nat
  | none => 0
  | some n => size n

end

theorem sizeAll_append (ms ns : List Node) : sizeAll (ms ++ ns) = sizeAll ms + sizeAll ns := by
  induction ms with
  | nil => simp [sizeAll]
  | cons m ms ih => simp [sizeAll, ih, Nat.add_assoc]

theorem sizeAll_toList (n : Option Node) : sizeAll n.toList = sizeOpt n := by
  cases n <;> simp [sizeAll, sizeOpt]

/-- A tree has one node more than the trees below its root. -/
theorem size_eq_sizeAll_children (n : Node) : n.size = sizeAll n.children + 1 := by
  cases n <;> simp [size, children, sizeAll_append, sizeAll_toList, sizeAll, Nat.add_assoc]

end Node

/-! ## Walking a tree -/

/-- A node with its ancestors, outermost first. -/
abbrev Visit := Node × List Node

/-- The number of nodes that a stack of visits still has to yield. -/
def pendingSize (stack : List Visit) : Nat :=
  Node.sizeAll (stack.map Prod.fst)

/-- The visits to the children of a visited node. -/
def Visit.below (v : Visit) : List Visit :=
  v.1.children.map fun c => (c, v.2 ++ [v.1])

theorem pendingSize_below_append (v : Visit) (rest : List Visit) :
    pendingSize (v.below ++ rest) < pendingSize (v :: rest) := by
  have h := Node.size_eq_sizeAll_children v.1
  simp only [pendingSize, Visit.below, List.map_append, List.map_map, Node.sizeAll_append,
    List.map_cons, Node.sizeAll]
  have : (Prod.fst ∘ fun c => (c, v.2 ++ [v.1])) = (id : Node → Node) := rfl
  rw [this, List.map_id]
  omega

/-- Work off a stack of visits: each node is listed and its children take its place. -/
def walkStack : List Visit → List Visit
  | [] => []
  | v :: rest => v :: walkStack (v.below ++ rest)
termination_by stack => pendingSize stack
decreasing_by exact pendingSize_below_append v rest

/-- Every node of a tree with its ancestors, parents before children, left to right. -/
def walk (root : Node) (ancestors : List Node) : List Visit :=
  walkStack [(root, ancestors)]

/-- The first return that no function encloses. -/
def illegalReturn? (root : Node) : Option Node :=
  ((walk root []).find? fun v =>
    (match v.1 with
      | .returns .. => true
      | _ => false) && !v.2.any Node.isFunction).map Prod.fst

end FlowLint.Script
