import FlowLint.Program.Reader.Pattern
import FlowLint.Program.Reader.Semicolon
import FlowLint.Program.Reader.Token

/-!
# Nested constructs

A construct contains others of any kind. `Grammar` is what a reader of one construct may use for
those inside it; it stands for reading with one level of nesting less. The readers that are
shared by expressions and statements follow: lists, blocks, parameters and functions.
-/

namespace FlowLint.Script

/-- What surrounds an expression. -/
structure Setting where
  /-- May the statement end after it without a written semicolon? -/
  statement : Bool := false
  /-- Does `in` belong to the loop header around it? -/
  excludeIn : Bool := false

/-- Readers for the constructs inside a construct. -/
structure Grammar where
  /-- One expression. -/
  expression : Setting → Reader Concrete
  /-- One operand of an operator. -/
  operand : Setting → Reader Concrete
  /-- One `new` expression. -/
  construct : Reader Concrete
  /-- One markup element. -/
  element : Reader Concrete
  /-- One statement. -/
  statement : Reader Concrete

/-- No construct may be nested any further. -/
def Grammar.exhausted : Grammar where
  expression _ := failure
  operand _ := failure
  construct := failure
  element := failure
  statement := failure

namespace Grammar

variable (g : Grammar)

/-! ## Lists -/

/-- Items between commas up to a closing mark; an item may be missing. The opening mark has been
read. -/
def items (closing : String) (item : Reader Concrete) : Reader (List (Option Concrete)) := do
  let one : Reader (Option Concrete) := do
    let op ← nextOperator
    if op == "," || op == closing then return none else some <$> item
  let first ← one
  let all ← iterate (fun seen => do
    if ← operator? "," then return some ((← one) :: seen) else return none) [first]
  mark closing
  return all.reverse

/-- Expressions separated by commas. A single one stands for itself. -/
def expressions (s : Setting) : Reader Concrete := do
  let first ← g.expression s
  let all ← iterate (fun seen => do
    if ← operator? "," then return some ((← g.expression s) :: seen) else return none) [first]
  match all with
  | [e] => return e
  | _ => close .sequence first.span.start all.reverse

/-- An expression, or one spread out with three dots. -/
def spreadOrExpression : Reader Concrete := do
  let start ← operandStart
  if ← operator? "..." then
    let e ← g.expression {}
    close .spreadElement start [e]
  else
    g.expression {}

/-- The items of a list with a missing last one dropped; `none` if another one is missing. -/
def withoutTrailing (all : List (Option Concrete)) : Option (List Concrete) :=
  (match all.getLast? with
    | some none => all.dropLast
    | _ => all).mapM id

/-- Items of a list read as the parameters of a function. -/
def asParameters (all : List (Option Concrete)) : Option (List Concrete) := do
  (← withoutTrailing all).mapM fun c => (c.toPattern true).map (·.withRole .parameter)

/-- A parameter list in parentheses. -/
def parameters : Reader (List Concrete) := do
  mark "("
  asParameters (← items ")" g.spreadOrExpression)

/-! ## Blocks and names -/

/-- Statements up to a closing brace or the end of the text. -/
def statements : Reader (List Concrete) := do
  let all ← iterate (fun seen => do
    discard operandStart
    match (← get).rest with
    | [] => return none
    | c :: _ => if c = '}' then return none else return some ((← g.statement) :: seen)) []
  return all.reverse

/-- A block. An omitted semicolon after it belongs to it; `operator` says whether an operator
could follow the block. -/
def block (operator : Bool) : Reader Concrete := do
  let start ← tokenStart
  mark "\x7b"
  let body ← g.statements
  mark "\x7d"
  discard (omitted? operator)
  close .statementBlock start body

/-- A property name: a word of any kind, a private name, a string, a number or an expression in
brackets. -/
def propertyName : Reader Concrete := do
  let start ← tokenStart
  let cs := (← get).rest
  if 0 < nameLength cs then
    leaf .propertyIdentifier (nameLength cs)
  else if 0 < numberLength cs then
    leaf .number (numberLength cs)
  else if (stringLength cs).isSome then
    stringToken
  else if ← operator? "[" then
    let e ← g.expression {}
    mark "]"
    close .computedPropertyName start [e]
  else
    privateName

/-- Read a word such as `static` or `get` where it modifies the member that follows, rather than
names it. -/
def modifier? (w : String) (stops : List String) (mayEnd : Bool) : Reader Bool := do
  let before ← get
  if !(← word? w) then return false
  if (mayEnd && (← endsHere false)) || stops.contains (← nextOperator) then
    set before
    return false
  return true

/-- The parameters and the body of a method whose name has been read. -/
def method (start : Point) (key : Concrete) : Reader Concrete := do
  let params ← g.parameters
  let body ← g.block false
  close .methodDefinition start (key.withRole .name :: params ++ [body.withRole .body])

/-- Read the modifiers of a method and say whether there were any. -/
def methodModifiers (stops : List String) (mayEnd : Bool) : Reader Bool := do
  let asynchronous ← modifier? "async" stops mayEnd
  if ← operator? "*" then return true
  if ← modifier? "get" stops mayEnd then return true
  if ← modifier? "set" stops mayEnd then return true
  return asynchronous

/-! ## Functions and classes -/

/-- A function from the word `function` on; the caller may have read `async` at `start`. The kind
is that of an expression. `operator` says whether an operator could follow. -/
def function (start : Point) (operator : Bool) : Reader Concrete := do
  word "function"
  let generator ← operator? "*"
  let named : List Concrete ←
    if isName (← nextWord) then (fun n => [n.withRole .name]) <$> name else pure []
  let params ← g.parameters
  let body ← g.block operator
  close (if generator then .generatorFunction else .functionExpression) start
    (named ++ params ++ [body.withRole .body])

/-- A member of a class body. -/
def classMember : Reader Concrete := do
  let start ← tokenStart
  let stops := ["(", "=", ";", "\x7d"]
  let fixed ← modifier? "static" stops true
  if fixed && (← nextOperator) == "\x7b" then
    let body ← g.block false
    close .classStaticBlock start [body]
  else
    let modified ← methodModifiers stops true
    let key ← g.propertyName
    if (← nextOperator) == "(" then
      let m ← g.method start key
      discard (mark? ";")
      return m
    else
      guard (!modified)
      if ← operator? "=" then
        let value ← g.expression { statement := true }
        let field ← close .fieldDefinition start [key.withRole .property, value.withRole .value]
        semicolon true
        return field
      else
        let field ← close .fieldDefinition start [key.withRole .property]
        semicolon false
        return field

/-- The members of a class body up to its closing brace. -/
def classMembers : Reader (List Concrete) := do
  let all ← iterate (fun (seen : List Concrete) => do
    if ← mark? ";" then return some seen
    if (← nextOperator) == "\x7d" then return none
    return some ((← g.classMember).withRole .member :: seen)) []
  return all.reverse

/-- A class from the word `class` on. The kind is that of an expression. -/
def classBody (start : Point) : Reader Concrete := do
  word "class"
  let named : List Concrete ←
    if isName (← nextWord) then (fun n => [n.withRole .name]) <$> name else pure []
  let heritage : List Concrete ←
    if ← word? "extends" then (fun e => [e.withRole .heritage]) <$> g.expression {} else pure []
  mark "\x7b"
  let members ← g.classMembers
  mark "\x7d"
  close .classExpression start (named ++ heritage ++ members)

end Grammar

end FlowLint.Script
