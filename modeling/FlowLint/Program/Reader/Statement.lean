import FlowLint.Program.Reader.Element

/-!
# Statements

Each kind of statement has a reader of its own; `statementWith` picks one by the first word or
mark.
-/

namespace FlowLint.Script.Grammar

variable (g : Grammar)

/-! ## Declarations -/

/-- The target of a declaration: a name or a pattern. -/
def declared : Reader Concrete := do
  let next ← nextOperator
  if next == "[" then (← g.array).toPattern false
  else if next == "\x7b" then (← g.object).toPattern false
  else name

/-- One declarator, from its target on. -/
def declaratorOf (s : Setting) (target : Concrete) : Reader Concrete := do
  if ← operator? "=" then
    let value ← g.expression s
    close .variableDeclarator target.span.start [target.withRole .name, value.withRole .value]
  else
    close .variableDeclarator target.span.start [target.withRole .name]

/-- The rest of a declaration whose first declarator has been read. -/
def declarationFrom (kind : Kind) (start : Point) (keyword first : Concrete) :
    Reader Concrete := do
  let all ← iterate (fun (seen : List Concrete) => do
    if ← operator? "," then
      return some ((← g.declaratorOf { statement := true } (← g.declared)) :: seen)
    else return none) [first]
  semicolon (all.head?.any (·.children.length == 2))
  close kind start (keyword.withRole .kind :: all.reverse)

/-- A declaration from the point where its keywords have been read. -/
def declaration (kind : Kind) (start : Point) (keyword : Concrete) : Reader Concrete := do
  let first ← g.declaratorOf { statement := true } (← g.declared)
  g.declarationFrom kind start keyword first

/-- The kind of declaration that a keyword starts. -/
def declarationKind (w : String) : Kind :=
  if w == "var" then .variableDeclaration
  else if w == "using" then .usingDeclaration
  else .lexicalDeclaration

/-- Is `let` a keyword here? It is if a name or a pattern follows. -/
def letDeclares : Reader Bool :=
  succeeds (do
    word "let"
    guard (!(← endsHere true))
    let op ← nextOperator
    guard (isName (← nextWord) || op == "[" || op == "\x7b"))

/-- Does a declaration of variables start here? -/
def declares : Reader Bool := do
  let w ← nextWord
  if w == "let" then letDeclares else return w == "var" || w == "const" || w == "using"

/-- A declaration of variables. -/
def variableStatement : Reader Concrete := do
  let start ← tokenStart
  let keyword ← wordLeaf .token fun _ => true
  g.declaration (declarationKind keyword.text) start keyword

/-! ## Control -/

/-- An expression in parentheses. -/
def condition : Reader Concrete := do
  let start ← tokenStart
  mark "("
  let e ← g.expressions {}
  mark ")"
  close .parenthesized start [e]

/-- `if`. -/
def ifStatement (start : Point) : Reader Concrete := do
  word "if"
  let test ← g.condition
  let consequence ← g.statement
  if (← nextWord) == "else" then
    let at_ ← tokenStart
    word "else"
    let body ← g.statement
    let alternative ← close .elseClause at_ [body]
    close .ifStatement start [test, consequence, alternative]
  else
    close .ifStatement start [test, consequence]

/-- The rest of a loop over a collection, whose variable has been read. -/
def loopOver (start : Point) (target : List Concrete) : Reader Concrete := do
  (do word "in") <|> word "of"
  let right ← g.expressions {}
  mark ")"
  let body ← g.statement
  close .forInStatement start (target ++ [right.withRole .right, body.withRole .body])

/-- The rest of a counting loop, whose initializer has been read. -/
def loopFrom (start : Point) (initial : Concrete) : Reader Concrete := do
  toToken
  let test ←
    if (← nextOperator) == ";" then leaf .emptyStatement 1
    else
      let e ← g.expressions {}
      mark ";"
      pure e
  let step : List Concrete ←
    if (← nextOperator) == ")" then pure [] else (fun e => [e]) <$> g.expressions {}
  mark ")"
  let body ← g.statement
  close .forStatement start ([initial, test] ++ step ++ [body])

/-- The header and body of a loop that declares its variable. -/
def loopDeclaring (start : Point) : Reader Concrete := do
  let at_ ← tokenStart
  let keyword ← wordLeaf .token fun _ => true
  let target ← g.declared
  let header := [keyword.withRole .kind, target.withRole .left]
  let w ← nextWord
  if (w == "in" || w == "of") && !(← endsHere false) then
    g.loopOver start header
  else
    let counting (s : Setting) : Reader Concrete := do
      let first ← g.declaratorOf s target
      let initial ← g.declarationFrom (declarationKind keyword.text) at_ keyword first
      g.loopFrom start initial
    if keyword.text == "var" && (← nextOperator) == "=" then
      (do
        mark "="
        let value ← g.expression { excludeIn := true }
        guard ((← nextWord) == "in" || (← nextWord) == "of")
        g.loopOver start (header ++ [value.withRole .value])) <|> counting { statement := true }
    else
      counting { statement := true }

/-- Can an expression be the variable of a loop over a collection? -/
def loopVariable (e : Concrete) : Option Concrete :=
  if e.kind == .parenthesized then some e else e.toPattern false

/-- `for`, in all its forms. -/
def forStatement (start : Point) : Reader Concrete := do
  word "for"
  let waiting ← word? "await"
  mark "("
  if ← declares then
    g.loopDeclaring start
  else if (← nextOperator) == ";" then
    guard (!waiting)
    toToken
    let initial ← leaf .emptyStatement 1
    g.loopFrom start initial
  else
    let before ← get
    let e ← g.expressions { excludeIn := true }
    let w ← nextWord
    if w == "in" || w == "of" then
      (do
        let left ← loopVariable e
        g.loopOver start [left.withRole .left]) <|> (do
        set before
        let e ← g.expressions {}
        mark ";"
        g.loopFrom start e)
    else
      mark ";"
      g.loopFrom start e

/-- A `while` or `with` statement: a condition and a body. -/
def guardedStatement (kind : Kind) (keyword : String) (start : Point) : Reader Concrete := do
  word keyword
  let test ← g.condition
  let body ← g.statement
  close kind start [test, body]

/-- `do`. -/
def doStatement (start : Point) : Reader Concrete := do
  word "do"
  let body ← g.statement
  word "while"
  let test ← g.condition
  if !(← omitted? false) then discard (mark? ";")
  close .doStatement start [body, test]

/-- Statements of a branch of `switch`. -/
def branchStatements : Reader (List Concrete) := do
  let all ← iterate (fun (seen : List Concrete) => do
    discard operandStart
    let w ← nextWord
    if (← get).rest.head? == some '}' || w == "case" || w == "default" then return none
    return some ((← g.statement) :: seen)) []
  return all.reverse

/-- A branch of `switch`. -/
def branch : Reader Concrete := do
  let start ← tokenStart
  if ← word? "default" then
    mark ":"
    let body ← g.branchStatements
    close .switchDefault start body
  else
    word "case"
    let value ← g.expressions {}
    mark ":"
    let body ← g.branchStatements
    close .switchCase start (value :: body)

/-- `switch`. -/
def switchStatement (start : Point) : Reader Concrete := do
  word "switch"
  let value ← g.condition
  let at_ ← tokenStart
  mark "\x7b"
  let all ← iterate (fun (seen : List Concrete) => do
    if (← nextOperator) == "\x7d" then return none
    return some ((← g.branch) :: seen)) []
  mark "\x7d"
  let body ← close .switchBody at_ all.reverse
  close .switchStatement start [value, body]

/-- A `catch` clause, if one follows. -/
def catchClause : Reader (List Concrete) := do
  if (← nextWord) != "catch" then return []
  let start ← tokenStart
  word "catch"
  let param : List Concrete ←
    if ← mark? "(" then
      let target ← g.declared
      mark ")"
      pure [target.withRole .parameter]
    else pure []
  let body ← g.block false
  return [← close .catchClause start (param ++ [body.withRole .body])]

/-- A `finally` clause, if one follows. -/
def finallyClause : Reader (List Concrete) := do
  if (← nextWord) != "finally" then return []
  let start ← tokenStart
  word "finally"
  let body ← g.block false
  return [← close .finallyClause start [body]]

/-- `try`; both clauses may be missing. -/
def tryStatement (start : Point) : Reader Concrete := do
  word "try"
  let body ← g.block false
  let handler ← g.catchClause
  let finalizer ← g.finallyClause
  close .tryStatement start (body :: handler ++ finalizer)

/-! ## Simple statements -/

/-- `break` and `continue`, with an optional label. -/
def jump (kind : Kind) (keyword : String) (start : Point) : Reader Concrete := do
  word keyword
  if ← omitted? false then
    close kind start []
  else
    let label : List Concrete ←
      if isName (← nextWord) then (fun l => [l]) <$> wordLeaf .statementIdentifier isName
      else pure []
    semicolon false
    close kind start label

/-- `return`, with an optional value. -/
def returnStatement (start : Point) : Reader Concrete := do
  word "return"
  if ← omitted? false then
    close .returnStatement start []
  else if ← mark? ";" then
    close .returnStatement start []
  else
    let e ← g.expressions { statement := true }
    semicolon true
    close .returnStatement start [e]

/-- An expression as a statement. -/
def expressionStatement (start : Point) : Reader Concrete := do
  let e ← g.expressions { statement := true }
  semicolon true
  close .expressionStatement start [e]

/-- Does the text go on in a way that no statement starts? Then what was read is an operand. -/
def goesOn : Reader Bool := do
  let op ← nextOperator
  let w ← nextWord
  return w == "in" || w == "instanceof" ||
    !(["", "(", "[", "\x7b", "\x7d", "+", "-", "/", "/=", "<", "!", "~", "++", "--", ";", ")", "]",
      ":", "..."].contains op)

/-- A function as a declaration if it has a name, else as an expression. -/
def functionStatement (start : Point) : Reader Concrete :=
  (do
    discard (word? "async")
    let f ← g.function start true
    guard (f.children.any (·.role == .name) && !(← goesOn))
    let kind : Kind :=
      if f.kind == .generatorFunction then .generatorFunctionDeclaration else .functionDeclaration
    close kind start f.children) <|> g.expressionStatement start

/-- A class as a declaration if it has a name, else as an expression. -/
def classStatement (start : Point) : Reader Concrete :=
  (do
    let c ← g.classBody start
    guard (c.children.any (·.role == .name) && !(← goesOn))
    discard (omitted? true)
    close .classDeclaration start c.children) <|> g.expressionStatement start

/-- What a brace starts: a block, or an object when only that fits. -/
def braceStatement (start : Point) : Reader Concrete := do
  let block : Reader Concrete := do
    let empty ← succeeds (do mark "\x7b"; mark "\x7d")
    let b ← g.block empty
    guard (!(empty && (← goesOn)))
    return b
  if ← startsWithLabel then
    g.expressionStatement start <|> block
  else
    block <|> g.expressionStatement start

/-- A statement with a label. -/
def labeledStatement (start : Point) : Reader Concrete := do
  let label ← wordLeaf .statementIdentifier fun _ => true
  operator ":"
  let body ← g.statement
  close .labeledStatement start [label, body]

/-- Does a label start here? -/
def startsLabel (w : String) : Reader Bool := do
  if (isName w || w == "export") && w != "yield" && w != "await" && w != "undefined" then
    succeeds (do word w; operator ":")
  else
    return false

/-! ## Modules -/

/-- The rest of `from "module"`. -/
def fromClause : Reader Concrete := do
  word "from"
  stringToken

/-- A list of names in braces, each with an optional alias. -/
def specifiers (list item : Kind) : Reader Concrete := do
  let start ← tokenStart
  mark "\x7b"
  let one : Reader Concrete := do
    let at_ ← tokenStart
    let external : Reader (List Concrete) := do
      if (stringLength (← ahead)).isSome then return [← stringToken]
      if ← word? "default" then return []
      return [← name]
    let first ← external
    if ← word? "as" then
      let second ← external
      close item at_ (first ++ second)
    else close item at_ first
  let all ← items "\x7d" one
  let given ← withoutTrailing all
  close list start given

/-- The names that an import binds. -/
def importClause : Reader Concrete := do
  let start ← tokenStart
  let rest : Reader Concrete := do
    if (← nextOperator) == "\x7b" then specifiers .namedImports .importSpecifier
    else
      let at_ ← tokenStart
      mark "*"
      word "as"
      let n ← name
      close .namespaceImport at_ [n]
  if isName (← nextWord) then
    let first ← name
    if ← mark? "," then
      let second ← rest
      close .importClause start [first, second]
    else close .importClause start [first]
  else
    let only ← rest
    close .importClause start [only]

/-- An import, or an expression that starts with `import`. -/
def importStatement (start : Point) : Reader Concrete :=
  (do
    word "import"
    let children : List Concrete ←
      if (stringLength (← ahead)).isSome then pure [← stringToken]
      else
        let clause ← importClause
        pure [clause, ← fromClause]
    semicolon false
    close .importStatement start children) <|> g.expressionStatement start

/-- What `export default` exports. -/
def exportedDefault : Reader Concrete := do
  let start ← tokenStart
  let value : Reader Concrete := do
    let e ← g.expression { statement := true }
    semicolon true
    return e
  let w ← nextWord
  if w == "function" || w == "async" || w == "class" then
    (do
      let d ← if w == "class" then g.classStatement start else g.functionStatement start
      guard (d.kind != .expressionStatement)
      return d) <|> value
  else value

/-- An export, or an expression that starts with the name `export`. -/
def exportStatement (start : Point) : Reader Concrete :=
  (do
    word "export"
    let op ← nextOperator
    if op == "\x7b" then
      let clause ← specifiers .exportClause .exportSpecifier
      let source : List Concrete ←
        if (← nextWord) == "from" && !(← endsHere false) then pure [← fromClause] else pure []
      semicolon false
      close .exportStatement start (clause :: source)
    else if op == "*" then
      let at_ ← tokenStart
      mark "*"
      let space : List Concrete ←
        if ← word? "as" then
          let n ← if (stringLength (← ahead)).isSome then stringToken else name
          pure [← close .namespaceExport at_ [n]]
        else pure []
      let source ← fromClause
      semicolon false
      close .exportStatement start (space ++ [source])
    else if ← word? "default" then
      let value ← g.exportedDefault
      close .exportStatement start [value]
    else
      let w ← nextWord
      let at_ ← tokenStart
      let d ←
        if ← declares then g.variableStatement
        else if w == "class" then g.classStatement at_
        else g.functionStatement at_
      guard (d.kind != .expressionStatement)
      close .exportStatement start [d]) <|> g.expressionStatement start

/-! ## All statements -/

/-- A declaration with `using`, also after `await`. -/
def usingStatement (start : Point) : Reader Concrete := do
  discard (word? "await")
  let keyword ← wordLeaf .token (· == "using")
  g.declaration .usingDeclaration start keyword

/-- A statement that starts with a word. -/
def wordStatement (start : Point) (w : String) : Reader Concrete := do
  if ← startsLabel w then g.labeledStatement start
  else if w == "var" || w == "const" then g.variableStatement
  else if w == "let" then if ← letDeclares then g.variableStatement else g.expressionStatement start
  else if w == "using" then g.usingStatement start
  else if w == "await" then
    if ← succeeds (do word "await"; word "using") then g.usingStatement start
    else g.expressionStatement start
  else if w == "if" then g.ifStatement start
  else if w == "for" then g.forStatement start
  else if w == "while" then g.guardedStatement .whileStatement "while" start
  else if w == "with" then g.guardedStatement .withStatement "with" start
  else if w == "do" then g.doStatement start
  else if w == "switch" then g.switchStatement start
  else if w == "try" then g.tryStatement start
  else if w == "break" then jump .breakStatement "break" start
  else if w == "continue" then jump .continueStatement "continue" start
  else if w == "return" then g.returnStatement start
  else if w == "throw" then
    word "throw"
    let e ← g.expressions { statement := true }
    semicolon true
    close .throwStatement start [e]
  else if w == "debugger" then
    word "debugger"
    semicolon false
    close .debuggerStatement start []
  else if w == "function" then g.functionStatement start
  else if w == "async" then
    if ← succeeds (do word "async"; guard (!(← endsHere true)); word "function") then
      g.functionStatement start
    else g.expressionStatement start
  else if w == "class" then g.classStatement start
  else if w == "import" then g.importStatement start
  else if w == "export" then g.exportStatement start
  else g.expressionStatement start

/-- A statement. -/
def statementWith : Reader Concrete := do
  let start ← operandStart
  match (← get).rest with
  | [] => failure
  | c :: _ =>
    if c = '{' then g.braceStatement start
    else if c = ';' then leaf .emptyStatement 1
    else
      let w ← nextWord
      if w == "" then g.expressionStatement start else g.wordStatement start w

end FlowLint.Script.Grammar
