import FlowLint.Script.Tree

/-!
# Declarations and their uses

A scope is a program, a function, a catch clause, or a block that is not directly the body of
one of the latter two. A name refers to the innermost scope around it that declares the name
anywhere inside, before or after.

The analysis works from the inside out. `Usage` is what a part of a tree contributes to the scope
it stands in: its declarations, the names that still look for a declaration, and the bindings of
closed scopes that nothing refers to. `Usage.close` ends a scope.

* `unusedBindings` lists the bindings of variables to which no name refers, in source order.
-/

namespace FlowLint

open Script

/-- How a name came to be declared. -/
inductive BindingKind where
  | plain | parameter | catchParameter | function | classDefinition
  deriving Repr, DecidableEq, Inhabited

/-- The word for a kind of binding. -/
def BindingKind.name : BindingKind → String
  | plain => "variable"
  | parameter => "parameter"
  | catchParameter => "catch-parameter"
  | function => "function"
  | classDefinition => "class"

/-- One place where a name is declared. -/
structure Binding where
  name : String
  kind : BindingKind
  range : SourceRange
  holdsFunction : Bool := false
  deriving Repr, DecidableEq, Inhabited

/-- Which bindings may be unused. -/
structure Exemption where
  names : List String := []
  /-- Names that start with this text; the empty text exempts none. -/
  mark : String := "_"

/-- May a binding be unused? -/
def Exemption.covers (e : Exemption) (b : Binding) : Bool :=
  b.kind != .plain || b.holdsFunction
    || (e.mark != "" && e.mark.toList.isPrefixOf b.name.toList)
    || e.names.contains b.name

/-- What a part of a tree contributes to the scope it stands in. -/
structure Usage where
  /-- Names it declares there. -/
  declared : List Binding := []
  /-- Names it uses that no scope inside declares. -/
  pending : List String := []
  /-- Bindings of scopes inside to which nothing refers. -/
  unused : List Binding := []

namespace Usage

/-- The contributions of two parts. -/
def append (u v : Usage) : Usage :=
  { declared := u.declared ++ v.declared
    pending := u.pending ++ v.pending
    unused := u.unused ++ v.unused }

instance : Append Usage := ⟨append⟩

/-- Does a part declare a name in its scope? -/
def declares (u : Usage) (name : String) : Bool :=
  u.declared.any (·.name = name)

/-- End a scope: its declarations answer the names that look for them. -/
def close (exemption : Exemption) (u : Usage) : Usage :=
  { declared := []
    pending := u.pending.filter fun name => !u.declares name
    unused := u.unused ++ u.declared.filter fun b =>
      !u.pending.contains b.name && !exemption.covers b }

end Usage

/-- How a node is looked at. -/
inductive Role where
  /-- As something that is evaluated. -/
  | use
  /-- As a target that declares names. -/
  | bind (kind : BindingKind) (holdsFunction : Bool)
  /-- As the body of a function or catch clause, whose scope is open already. -/
  | body
  deriving Repr, DecidableEq, Inhabited

/-- Declaring a name given by an identifier; any other node declares nothing. -/
def declaring (kind : BindingKind) : Option Node → Usage
  | some (.identifier name range) => { declared := [{ name, kind, range }] }
  | _ => {}

/-- Is a key evaluated? Plain names are not. -/
def isEvaluatedKey : Option Node → Bool
  | some (.propertyName ..) | some (.identifier ..) | none => false
  | some _ => true

/-- Is a node a function that is given? -/
def isGivenFunction : Option Node → Bool
  | some n => n.isFunction
  | none => false

mutual

/-- What a node contributes to the scope it stands in. -/
def usage (exemption : Exemption) : Role → Node → Usage
  | .bind kind holdsFunction, .identifier name range =>
    { declared := [{ name, kind, range, holdsFunction }] }
  | .bind kind holdsFunction, .pattern _ elements _ =>
    usageAll exemption (.bind kind holdsFunction) elements
  | .bind kind holdsFunction, .patternProperty key value _ =>
    (if isEvaluatedKey key then usageOpt exemption .use key else {})
      ++ usageOpt exemption (.bind kind holdsFunction) value
  | .bind kind holdsFunction, .assignmentPattern target fallback _ =>
    usageOpt exemption (.bind kind holdsFunction) target ++ usageOpt exemption .use fallback
  | .body, .block statements _ => usageAll exemption .use statements
  | _, .program statements _ | _, .block statements _ =>
    (usageAll exemption .use statements).close exemption
  | _, .identifier name _ => { pending := [name] }
  | _, .propertyName _ _ | _, .literal _ _ _ | _, .debugger _ => {}
  | _, .member object property computed _ =>
    usageOpt exemption .use object ++ if computed then usageOpt exemption .use property else {}
  | _, .declarator target init _ =>
    usageOpt exemption (.bind .plain (isGivenFunction init)) target
      ++ usageOpt exemption .use init
  | _, .function kind name params body _ _ =>
    let outside := match kind with
      | .declaration => declaring .function name
      | .method => usageOpt exemption .use name
      | .expression | .arrow => {}
    let inside := match kind with
      | .expression => declaring .function name
      | .declaration | .method | .arrow => {}
    outside ++ (inside ++ usageAll exemption (.bind .parameter false) params
      ++ usageOpt exemption .body body).close exemption
  | _, .classNode name declared heritage members _ =>
    (if declared then declaring .classDefinition name else {})
      ++ usageOpt exemption .use heritage ++ usageAll exemption .use members
  | _, .catchClause param body _ =>
    (usageOpt exemption (.bind .catchParameter false) param
      ++ usageOpt exemption .body body).close exemption
  | _, .declaration _ declarators _ => usageAll exemption .use declarators
  | _, .pattern _ elements _ => usageAll exemption .use elements
  | _, .patternProperty key value _ =>
    usageOpt exemption .use key ++ usageOpt exemption .use value
  | _, .assignmentPattern target fallback _ =>
    usageOpt exemption .use target ++ usageOpt exemption .use fallback
  | _, .assignment target value _ _ =>
    usageOpt exemption .use target ++ usageOpt exemption .use value
  | _, .call callee arguments _ _ =>
    usageOpt exemption .use callee ++ usageAll exemption .use arguments
  | _, .returns argument _ => usageOpt exemption .use argument
  | _, .control _ parts _ => usageAll exemption .use parts
  | _, .other _ parts _ => usageAll exemption .use parts

/-- What several nodes contribute. -/
def usageAll (exemption : Exemption) : Role → List Node → Usage
  | _, [] => {}
  | role, n :: ns => usage exemption role n ++ usageAll exemption role ns

/-- What a node that may be absent contributes. -/
def usageOpt (exemption : Exemption) : Role → Option Node → Usage
  | _, none => {}
  | role, some n => usage exemption role n

end

/-- Does a position come first, or is it the same? -/
def Position.le (p q : Position) : Bool :=
  p.line < q.line || (p.line = q.line && p.column ≤ q.column)

/-- The bindings to which no name refers and that are not exempt, in source order. -/
def unusedBindings (exemption : Exemption) (program : Node) : List Binding :=
  (usage exemption .use program).unused.mergeSort fun a b => a.range.start.le b.range.start

end FlowLint
