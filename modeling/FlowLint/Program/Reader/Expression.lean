import FlowLint.Program.Reader.Grammar

/-!
# Expressions

Operands first: literals, names, functions, parentheses and what may follow them (members,
calls, assignments). Then operators: a chain of operands and operators is read flat and
`chainTree` arranges it by precedence.
-/

namespace FlowLint.Script.Grammar

variable (g : Grammar)

/-! ## Literals -/

/-- Characters of a template up to the next escape, substitution or closing mark. -/
def templateRun : List Char → Nat
  | [] => 0
  | '$' :: '{' :: _ => 0
  | c :: cs => if c = '\x60' || c = '\\' then 0 else templateRun cs + 1

/-- A template string. -/
def template : Reader Concrete := do
  let start ← tokenStart
  mark "\x60"
  let parts ← iterate (fun (seen : List Concrete) => do
    let cs := (← get).rest
    match cs with
    | [] => failure
    | '$' :: '{' :: _ =>
      let at_ := (← get).point
      discard (take 2)
      let e ← g.expressions {}
      mark "\x7d"
      return some ((← close .templateSubstitution at_ [e]) :: seen)
    | c :: _ =>
      if c = '\x60' then return none
      else if c = '\\' then
        let n ← escapeLength cs
        return some ((← leaf .escapeSequence n) :: seen)
      else return some ((← leaf .stringFragment (templateRun cs)) :: seen)) []
  discard (take 1)
  close .templateString start parts.reverse

/-- An array. -/
def array : Reader Concrete := do
  let start ← tokenStart
  mark "["
  let all ← items "]" g.spreadOrExpression
  close .array start (all.filterMap id)

/-- A property of an object. A shorthand property may have a default, which only a pattern
allows. -/
def property : Reader Concrete := do
  let start ← tokenStart
  if ← operator? "..." then
    let e ← g.expression {}
    close .spreadElement start [e]
  else
    let stops := ["(", ":", ",", "=", "\x7d"]
    let fixed ← modifier? "static" stops false
    let modified ← methodModifiers stops false
    let key ← g.propertyName
    if (← nextOperator) == "(" then
      g.method start key
    else
      guard (!fixed && !modified)
      if ← operator? ":" then
        let value ← g.expression {}
        close .pair start [key.withRole .key, value.withRole .value]
      else
        guard (key.kind == .propertyIdentifier && (isName key.text || key.text == "export"))
        if ← operator? "=" then
          let value ← g.expression {}
          close .objectAssignmentPattern start
            [.node .shorthandPropertyPattern .left key.span key.text [], value.withRole .right]
        else
          return .node .shorthandProperty .part key.span key.text []

/-- An object. -/
def object : Reader Concrete := do
  let start ← tokenStart
  mark "\x7b"
  let all ← items "\x7d" g.property
  close .object start (all.filterMap id)

/-! ## Primary expressions -/

/-- Does a brace open something that starts like a label or like the key of a pair? -/
def startsWithLabel : Reader Bool :=
  succeeds (do mark "\x7b"; discard (wordLeaf .identifier fun _ => true); operator ":")

/-- The body of an arrow function: a block or an expression. -/
def arrowBody (s : Setting) : Reader Concrete := do
  if (← nextOperator) == "\x7b" then
    if ← startsWithLabel then g.expression s <|> g.block true else g.block true <|> g.expression s
  else
    g.expression s

/-- The rest of an arrow function whose parameters have been read. -/
def arrow (s : Setting) (start : Point) (params : List Concrete) : Reader Concrete := do
  operator "=>"
  let body ← g.arrowBody s
  close .arrowFunction start (params ++ [body.withRole .body])

/-- A parenthesis: the parameters of an arrow function, or expressions. -/
def parenthesis (s : Setting) (arrows : Bool) : Reader Concrete := do
  let start ← tokenStart
  mark "("
  let all ← items ")" g.spreadOrExpression
  if arrows && (← nextOperator) == "=>" then
    g.arrow s start (← asParameters all)
  else
    let es ← (all.mapM id : Option (List Concrete))
    guard (es.all (·.kind != .spreadElement))
    match es with
    | [] => failure
    | [e] => close .parenthesized start [e]
    | e :: _ =>
      let last := (es.getLast?.map (·.span.stop)).getD e.span.stop
      close .parenthesized start [.node .sequence .part ⟨e.span.start, last⟩ "" es]

/-- A call, from the function and its arguments. -/
def call (function : Concrete) (arguments : List Concrete) : Reader Concrete :=
  close .call function.span.start
    (function.withRole .function :: arguments.map (·.withRole .argument))

/-- What starts with the word `async`: a function, an arrow function, or the name itself. -/
def asynchronous (s : Setting) (arrows : Bool) : Reader Concrete := do
  let start ← tokenStart
  let self ← wordLeaf .identifier (· == "async")
  if s.statement && (← endsHere true) then return self
  if (← nextWord) == "function" then
    g.function start true
  else if !arrows then
    return self
  else if (← nextOperator) == "=>" then
    g.arrow s start [self.withRole .parameter]
  else if isName (← nextWord) then
    let param ← name
    g.arrow s start [param.withRole .parameter]
  else if (← nextOperator) == "(" then
    mark "("
    let all ← items ")" g.spreadOrExpression
    if (← nextOperator) == "=>" then
      g.arrow s start (← asParameters all)
    else
      call self (all.filterMap id)
  else
    return self

/-- What starts with the word `import` in an expression. -/
def importOperand : Reader Concrete := do
  let start ← tokenStart
  let self ← wordLeaf .importKeyword (· == "import")
  if ← operator? "." then
    word "meta"
    close .metaProperty start []
  else
    guard ((← nextOperator) == "(")
    return self

/-- The words that are leaves of their own kind. -/
def wordKind : String → Option Kind
  | "this" => some .this
  | "super" => some .super
  | "true" => some .trueLiteral
  | "false" => some .falseLiteral
  | "null" => some .nullLiteral
  | "undefined" => some .undefined
  | _ => none

/-- An operand that starts with a word, without what follows it. -/
def wordOperand (s : Setting) (arrows : Bool) (w : String) : Reader Concrete := do
  let start := (← get).point
  match wordKind w with
  | some kind => leaf kind w.length
  | none =>
    if w == "function" then g.function start true
    else if w == "class" then g.classBody start
    else if w == "async" then g.asynchronous s arrows
    else if w == "import" then importOperand
    else
      guard (isName w || w == "export")
      let self ← leaf .identifier w.length
      if arrows && (← nextOperator) == "=>" then
        g.arrow s start [self.withRole .parameter]
      else
        return self

/-- An operand without what follows it. -/
def primary (s : Setting) (arrows : Bool) : Reader Concrete := do
  discard operandStart
  let cs := (← get).rest
  match cs with
  | [] => failure
  | c :: _ =>
    if 0 < numberLength cs then leaf .number (numberLength cs)
    else if c = '\'' || c = '"' then stringToken
    else if c = '\x60' then g.template
    else if c = '/' then leaf .regex (← regexLength cs)
    else if c = '(' then g.parenthesis s arrows
    else if c = '[' then g.array
    else if c = '{' then g.object
    else if c = '<' then g.element
    else g.wordOperand s arrows (← nextWord)

/-! ## What follows an operand -/

/-- The property after a point: a word of any kind or a private name. -/
def memberName : Reader Concrete := do
  let cs ← ahead
  if cs.head? == some '#' then privateName else wordLeaf .propertyIdentifier fun _ => true

/-- A subscript, from its bracket on. -/
def subscript (base : Concrete) : Reader Concrete := do
  mark "["
  let index ← g.expressions {}
  mark "]"
  close .subscript base.span.start [base.withRole .object, index.withRole .index]

/-- A call with arguments in parentheses. -/
def callWith (base : Concrete) : Reader Concrete := do
  mark "("
  call base ((← items ")" g.spreadOrExpression).filterMap id)

/-- May a template follow directly, as the argument of a call? -/
def takesTemplate (base : Concrete) : Bool :=
  !(base.kind == .arrowFunction || base.kind == .update || base.kind == .jsxElement
    || base.kind == .jsxSelfClosingElement)

/-- One member access, subscript or tagged template after an operand. -/
def memberStep (base : Concrete) : Reader (Option Concrete) := do
  let op ← nextOperator
  if op == "." then
    mark "."
    let property ← memberName
    return some (← close .member base.span.start
      [base.withRole .object, property.withRole .property])
  else if op == "[" then
    return some (← g.subscript base)
  else if (← ahead).head? == some '\x60' && takesTemplate base then
    return some (← call base [← g.template])
  else
    return none

/-- One step of what may follow an operand: a member, a call or an increment. -/
def postfixStep (s : Setting) (base : Concrete) : Reader (Option Concrete) := do
  if s.statement && (← endsHere true) then return none
  let op ← nextOperator
  if op == "(" then
    return some (← g.callWith base)
  else if op == "++" || op == "--" then
    mark op
    return some (← close .update base.span.start [base])
  else if op == "?." then
    mark op
    let next ← nextOperator
    if next == "(" then return some (← g.callWith base)
    else if next == "[" then return some (← g.subscript base)
    else
      let property ← memberName
      return some (← close .member base.span.start
        [base.withRole .object, property.withRole .property])
  else
    g.memberStep base

/-- A `new` expression. -/
def constructWith : Reader Concrete := do
  let start ← tokenStart
  word "new"
  if ← operator? "." then
    word "target"
    close .metaProperty start []
  else
    let base ← if (← nextWord) == "new" then g.construct else g.primary {} false
    let base ← iterate g.memberStep base
    let given : List Concrete ←
      if ← mark? "(" then (·.filterMap id) <$> items ")" g.spreadOrExpression else pure []
    close .new start (base.withRole .function :: given.map (·.withRole .argument))

/-- The operators that assign a computed value. -/
def augmentedOperators : List String :=
  ["+=", "-=", "*=", "/=", "%=", "^=", "&=", "|=", ">>=", ">>>=", "<<=", "**=", "&&=", "||=", "??="]

/-- An operand with an assignment to it, if one follows. -/
def assignmentTo (s : Setting) (base : Concrete) : Reader Concrete := do
  let op ← nextOperator
  if op == "=" then
    let left ← if base.kind == .parenthesized then some base else base.toPattern false
    mark op
    let right ← g.expression s
    close .assignment base.span.start [left.withRole .left, right.withRole .right]
  else if augmentedOperators.contains op then
    guard ([.identifier, .member, .subscript, .parenthesized].contains base.kind)
    let sign ← (do toToken; leaf .token op.length)
    let right ← g.expression s
    close .augmentedAssignment base.span.start
      [base.withRole .left, sign.withRole .operator, right.withRole .right]
  else
    return base

/-- An operand and what follows it. -/
def completed (s : Setting) (base : Concrete) : Reader Concrete := do
  if base.kind == .arrowFunction && base.children.getLast?.any (·.kind != .statementBlock) then
    return base
  g.assignmentTo s (← iterate (g.postfixStep s) base)

/-- `yield`, with a value unless the expression ends. -/
def yielded (s : Setting) : Reader Concrete := do
  let start ← tokenStart
  word "yield"
  if s.statement && (← endsHere true) then
    close .yield start []
  else if ← operator? "*" then
    let e ← g.expression s
    close .yield start [e]
  else
    (do let e ← g.expression s; close .yield start [e]) <|> close .yield start []

/-- A word operator or sign before an operand. -/
def signed (s : Setting) (kind : Kind) (sign : String) : Reader Concrete := do
  let start ← tokenStart
  mark sign
  let argument ← g.operand s
  close kind start [argument]

/-- An operand of a binary operator. -/
def operandWith (s : Setting) : Reader Concrete := do
  discard operandStart
  let op ← nextOperator
  let w ← nextWord
  if op == "!" || op == "~" || op == "+" || op == "-" then g.signed s .unary op
  else if op == "!=" || op == "!==" then g.signed s .unary "!"
  else if op == "++" || op == "--" then g.signed s .update op
  else if w == "typeof" || w == "void" || w == "delete" then g.signed s .unary w
  else if w == "await" then g.signed s .await w
  else if w == "yield" then g.yielded s
  else if w == "new" then g.completed s (← g.constructWith)
  else if (← get).rest.head? == some '#' then
    let self ← privateName
    guard ((← nextWord) == "in")
    return self
  else g.completed s (← g.primary s true)

/-! ## Operators -/

/-- How tightly a binary operator binds; 0 for what is none. -/
def precedence : String → Nat
  | "**" => 12
  | "*" | "/" | "%" => 11
  | "+" | "-" => 10
  | "<<" | ">>" | ">>>" => 9
  | "<" | "<=" | ">" | ">=" | "in" | "instanceof" => 8
  | "==" | "!=" | "===" | "!==" => 7
  | "&" => 6
  | "^" => 5
  | "|" => 4
  | "&&" => 3
  | "||" => 2
  | "??" => 1
  | _ => 0

/-- The binary operator that comes next; empty if there is none. -/
def binaryOperator (s : Setting) : Reader String := do
  if s.statement && (← endsHere true) then return ""
  let w ← nextWord
  let op ← if w == "" then nextOperator else pure w
  if precedence op = 0 || (s.excludeIn && op == "in") then return "" else return op

/-- Operands that wait for a right side, innermost first, each with its operator. -/
abbrev Pending := List (Concrete × String)

/-- The node of a binary operator. -/
def binaryNode (left right : Concrete) : Concrete :=
  .node .binary .part ⟨left.span.start, right.span.stop⟩ ""
    [left.withRole .left, right.withRole .right]

/-- Join what binds at least as tightly as the operator that comes next. -/
def joinTighter (next : String) : Pending → Concrete → Pending × Concrete
  | [], right => ([], right)
  | (left, op) :: rest, right =>
    if precedence next < precedence op || (precedence next = precedence op && op != "**") then
      joinTighter next rest (binaryNode left right)
    else ((left, op) :: rest, right)

/-- Arrange a chain of operands by precedence. -/
def chainTree (pending : Pending) (right : Concrete) : List (String × Concrete) → Concrete
  | [] => pending.foldl (fun r p => binaryNode p.1 r) right
  | (op, operand) :: rest =>
    let (pending, left) := joinTighter op pending right
    chainTree ((left, op) :: pending) operand rest

/-- An expression: a chain of operands and operators, and the branches of a conditional. -/
def expressionWith (s : Setting) : Reader Concrete := do
  let first ← g.operandWith s
  let chain ← iterate (fun (seen : List (String × Concrete)) => do
    let op ← binaryOperator s
    if op == "" then return none
    mark op
    return some ((op, ← g.operandWith s) :: seen)) []
  let tree := chainTree [] first chain.reverse
  if !(s.statement && (← endsHere true)) && (← nextOperator) == "?" then
    mark "?"
    let yes ← g.expression {}
    mark ":"
    let no ← g.expression s
    close .ternary tree.span.start [tree, yes, no]
  else
    return tree

end FlowLint.Script.Grammar
