import FlowLint.Script.Concrete
import FlowLint.Script.Literal
import FlowLint.Script.Tree

/-!
# From concrete syntax to the tree

`convert` builds the typed tree of a concrete one. Positions become 1-based lines, moved by a
fixed shift, and code point columns; literals get their values. A binding or assignment target is
converted in `target` mode, where names and patterns are told apart from expressions.
-/

namespace FlowLint.Script

/-- What conversion needs to know about the text. -/
structure Layout where
  /-- The lines of the text that was read. -/
  lines : Array (List Char)
  /-- Added to every line number. -/
  shift : Int := 0
  /-- The name of the function that wraps the unit, if one does. -/
  wrapper : Option String := none

/-- The position of a point. -/
def Layout.position (l : Layout) (p : Point) : Position :=
  ⟨p.row + 1 + l.shift, column l.lines p⟩

/-- The range of a span. -/
def Layout.range (l : Layout) (s : Span) : SourceRange :=
  ⟨l.position s.start, l.position s.stop⟩

/-- Is a construct read as an expression or statement, or as a target? -/
inductive Mode where
  | value | target
  deriving DecidableEq

/-- The control structure that a kind stands for. -/
def Kind.control? : Kind → Option ControlKind
  | .ifStatement => some .branch
  | .forStatement => some .loop
  | .forInStatement => some .loopOver
  | .whileStatement => some .whileLoop
  | .doStatement => some .doLoop
  | .switchStatement => some .choice
  | .tryStatement => some .attempt
  | .withStatement => some .withObject
  | _ => none

/-- The text of the first child in a role. -/
def textAt (role : Role) (cs : List Concrete) : Option String :=
  (cs.find? (·.role == role)).map (·.text)

/-- Does a function declaration at the top of the text, named like the wrapper, start it? -/
def Layout.isWrapper (l : Layout) (atTop : Bool) (span : Span) (name : Option Node) : Bool :=
  match l.wrapper, name with
  | some w, some (.identifier n _) => atTop && n == w && span.start == {}
  | _, _ => false

/-- The value of a number literal. A malformed one has none; one out of range is an error. -/
def numberLiteral (raw : String) : Except LiteralError Literal :=
  if raw.toList.getLast? == some 'n' then .ok .bigInteger
  else
    match numberValue raw.toList with
    | .ok v => .ok (.number v)
    | .error .tooLarge => .error .tooLarge
    | .error _ => .ok (.number none)

mutual

/-- The tree of a concrete node. `atTop` says whether its parent is the program. -/
def convert (l : Layout) (mode : Mode) (atTop : Bool) :
    Concrete → Except LiteralError Node
  | .node kind _ span text cs =>
    let range := l.range span
    match kind with
    | .program => do return .program (← convertAll l .value true cs) range
    | .statementBlock => do return .block (← convertAll l .value false cs) range
    | .identifier | .shorthandProperty => .ok (.identifier text range)
    | .propertyIdentifier | .privatePropertyIdentifier | .statementIdentifier =>
      .ok (.propertyName text range)
    | .string => do
      return .literal (.string (← cook (text.toList.drop 1).dropLast)) text range
    | .number => do return .literal (← numberLiteral text) text range
    | .trueLiteral => .ok (.literal (.boolean true) text range)
    | .falseLiteral => .ok (.literal (.boolean false) text range)
    | .nullLiteral => .ok (.literal .null text range)
    | .regex => .ok (.literal .regex text range)
    | .functionDeclaration | .generatorFunctionDeclaration => do
      let name ← convertAt l .value .name cs
      let params ← convertAllAt l .target .parameter cs
      let body ← convertAt l .value .body cs
      return .function .declaration name params body (l.isWrapper atTop span name) range
    | .functionExpression | .generatorFunction => do
      let name ← convertAt l .value .name cs
      let params ← convertAllAt l .target .parameter cs
      let body ← convertAt l .value .body cs
      return .function .expression name params body false range
    | .arrowFunction => do
      let name ← convertAt l .value .name cs
      let params ← convertAllAt l .target .parameter cs
      let body ← convertAt l .value .body cs
      return .function .arrow name params body false range
    | .methodDefinition => do
      let name ← convertAt l .value .name cs
      let params ← convertAllAt l .target .parameter cs
      let body ← convertAt l .value .body cs
      return .function .method name params body false range
    | .classDeclaration | .classExpression => do
      let heritage ← convertAt l .value .heritage cs
      let name ← convertAt l .value .name cs
      let members ← convertAllAt l .value .member cs
      return .classNode name (kind == .classDeclaration) heritage members range
    | .variableDeclaration | .lexicalDeclaration => do
      return .declaration ((textAt .kind cs).getD "var") (← convertAll l .value false cs) range
    | .variableDeclarator => do
      let target ← convertAt l .target .name cs
      let init ← convertAt l .value .value cs
      return .declarator target init range
    | .assignment | .augmentedAssignment => do
      let target ← convertAt l .target .left cs
      let value ← convertAt l .value .right cs
      return .assignment target value ((textAt .operator cs).getD "=") range
    | .call => do
      let arguments ← convertAllAt l .value .argument cs
      let callee ← convertAt l .value .function cs
      return .call callee arguments false range
    | .new => do
      let callee ← convertAt l .value .function cs
      let arguments ← convertAllAt l .value .argument cs
      return .call callee arguments true range
    | .member => do
      let object ← convertAt l .value .object cs
      let property ← convertAt l .value .property cs
      return .member object property false range
    | .subscript => do
      let object ← convertAt l .value .object cs
      let index ← convertAt l .value .index cs
      return .member object index true range
    | .returnStatement => do
      return .returns (← convertAll l .value false cs).head? range
    | .debuggerStatement => .ok (.debugger range)
    | .catchClause => do
      let param ← convertAt l .target .parameter cs
      let body ← convertAt l .value .body cs
      return .catchClause param body range
    | .forInStatement => do
      return .control .loopOver (← convertLoop l (textAt .kind cs) cs) range
    | .parenthesized => do
      match ← convertAll l mode false cs with
      | [only] => return only
      | parts => return .other kind.name parts range
    | .shorthandPropertyPattern =>
      if mode = .target then .ok (.identifier text range)
      else do return .other kind.name (← convertAll l .value false cs) range
    | .objectPattern =>
      if mode = .target then do
        return .pattern .object (← convertAll l .target false cs) range
      else do return .other kind.name (← convertAll l .value false cs) range
    | .arrayPattern =>
      if mode = .target then do
        return .pattern .array (← convertAll l .target false cs) range
      else do return .other kind.name (← convertAll l .value false cs) range
    | .restPattern =>
      if mode = .target then do
        return .pattern .rest (← convertAll l .target false cs) range
      else do return .other kind.name (← convertAll l .value false cs) range
    | .pairPattern =>
      if mode = .target then do
        let key ← convertAt l .value .key cs
        let value ← convertAt l .target .value cs
        return .patternProperty key value range
      else do return .other kind.name (← convertAll l .value false cs) range
    | .assignmentPattern | .objectAssignmentPattern =>
      if mode = .target then do
        let target ← convertAt l .target .left cs
        let fallback ← convertAt l .value .right cs
        return .assignmentPattern target fallback range
      else do return .other kind.name (← convertAll l .value false cs) range
    | kind => do
      let parts ← convertAll l .value false cs
      match kind.control? with
      | some control => return .control control parts range
      | none => return .other kind.name parts range

/-- The trees of all children that are nodes of their own. -/
def convertAll (l : Layout) (mode : Mode) (atTop : Bool) :
    List Concrete → Except LiteralError (List Node)
  | [] => .ok []
  | c :: cs =>
    if c.kind == .token then convertAll l mode atTop cs
    else do return (← convert l mode atTop c) :: (← convertAll l mode atTop cs)

/-- The tree of the first child in a role. -/
def convertAt (l : Layout) (mode : Mode) (role : Role) :
    List Concrete → Except LiteralError (Option Node)
  | [] => .ok none
  | c :: cs =>
    if c.role == role then do return some (← convert l mode false c)
    else convertAt l mode role cs

/-- The trees of all children in a role. -/
def convertAllAt (l : Layout) (mode : Mode) (role : Role) :
    List Concrete → Except LiteralError (List Node)
  | [] => .ok []
  | c :: cs =>
    if c.role == role then do
      return (← convert l mode false c) :: (← convertAllAt l mode role cs)
    else convertAllAt l mode role cs

/-- The parts of a loop over a collection. A keyword makes its variable a declaration. -/
def convertLoop (l : Layout) (keyword : Option String) :
    List Concrete → Except LiteralError (List Node)
  | [] => .ok []
  | c :: cs =>
    if c.kind == .token then convertLoop l keyword cs
    else
      match keyword with
      | none => do return (← convert l .value false c) :: (← convertLoop l keyword cs)
      | some word =>
        if c.role == .left then do
          let target ← convert l .target false c
          let declared := Node.declaration word
            [.declarator (some target) none target.range] (l.range c.span)
          return declared :: (← convertLoop l keyword cs)
        else do return (← convert l .value false c) :: (← convertLoop l keyword cs)

end

end FlowLint.Script
