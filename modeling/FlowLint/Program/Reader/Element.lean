import FlowLint.Program.Reader.Expression

/-!
# Markup elements

Elements written inside an expression: tags with attributes, text and embedded expressions.
Names of opening and closing tags are not compared.
-/

namespace FlowLint.Script.Grammar

variable (g : Grammar)

/-- Length of a tag or attribute name, which may contain hyphens. -/
def tagNameLength (cs : List Char) : Nat :=
  let plain := nameLength cs
  let ascii := fun (c : Char) => c.isAlphanum || c = '_' || c = '$'
  if (cs.take plain).all ascii && (cs.drop plain).head? == some '-' then
    (cs.takeWhile fun c => ascii c || c = '-').length
  else plain

/-- A simple tag or attribute name. -/
def simpleName (kind : Kind) : Reader Concrete := do
  toToken
  let cs := (← get).rest
  let n := tagNameLength cs
  guard (0 < n && !reservedWords.contains (String.ofList (cs.take n)))
  leaf kind n

/-- A tag name: simple, dotted or in a namespace. -/
def tagName : Reader Concrete := do
  let first ← simpleName .identifier
  if ← mark? ":" then
    let second ← simpleName .identifier
    close .jsxNamespaceName first.span.start [first, second]
  else
    iterate (fun (base : Concrete) => do
      if ← mark? "." then
        let property ← wordLeaf .propertyIdentifier fun _ => true
        return some (← close .member base.span.start
          [base.withRole .object, property.withRole .property])
      else return none) first

/-- An expression in braces inside markup; it may be empty. -/
def elementExpression : Reader Concrete := do
  let start ← tokenStart
  mark "\x7b"
  if ← mark? "\x7d" then
    close .jsxExpression start []
  else
    let e ← if (← nextOperator) == "..." then g.spreadOrExpression else g.expressions {}
    mark "\x7d"
    close .jsxExpression start [e]

/-- A quoted attribute value, which may span lines. -/
def attributeString : Reader Concrete := do
  toToken
  match (← get).rest with
  | q :: cs =>
    guard (q = '\'' || q = '"')
    let n := (cs.takeWhile (· != q)).length
    guard (n < cs.length)
    leaf .string (n + 2)
  | [] => failure

/-- An attribute of a tag. -/
def tagAttribute : Reader Concrete := do
  let start ← tokenStart
  if (← nextOperator) == "\x7b" then
    g.elementExpression
  else
    let key ← simpleName .propertyIdentifier
    let key ← if ← mark? ":" then
        let second ← simpleName .propertyIdentifier
        close .jsxNamespaceName start [key, second]
      else pure key
    if ← mark? "=" then
      let next := (← ahead).head?
      let value ←
        if next == some '{' then g.elementExpression
        else if next == some '<' then g.element
        else attributeString
      close .jsxAttribute start [key, value]
    else
      close .jsxAttribute start [key]

/-- The attributes of a tag up to its end. -/
def attributes : Reader (List Concrete) := do
  let all ← iterate (fun (seen : List Concrete) => do
    let next := (← ahead).head?
    if next == some '>' || next == some '/' then return none
    return some ((← g.tagAttribute) :: seen)) []
  return all.reverse

/-- Does a run of text count, rather than being whitespace around a line break? The flag says
whether only whitespace has come since the last line feed. -/
def textCounts : Bool → List Char → Bool
  | _, [] => false
  | atBreak, c :: cs =>
    if c = '\n' then textCounts true cs
    else if atBreak && Text.isSpacing c then textCounts true cs
    else true

/-- A character reference such as `&amp;`; 0 if there is none. -/
def referenceLength : List Char → Nat
  | '&' :: cs =>
    let body := cs.takeWhile (fun c => c.isAlphanum || c = '#')
    if 0 < body.length && (cs.drop body.length).head? == some ';' then body.length + 2 else 0
  | _ => 0

/-- Text and embedded constructs of an element up to its closing tag. -/
def elementChildren : Reader (List Concrete) := do
  let all ← iterate (fun (seen : List Concrete) => do
    let text := (← get).rest.takeWhile fun c => !"<>\x7b\x7d&".toList.contains c
    if textCounts false text then
      return some ((← leaf .jsxText text.length) :: seen)
    toToken
    match (← get).rest with
    | '<' :: cs =>
      if (Cursor.toToken { rest := cs }).rest.head? == some '/' then return none
      return some ((← g.element) :: seen)
    | '{' :: _ => return some ((← g.elementExpression) :: seen)
    | '&' :: _ =>
      let n := referenceLength (← get).rest
      guard (0 < n)
      return some ((← leaf .characterReference n) :: seen)
    | _ => failure) []
  return all.reverse

/-- A markup element. -/
def elementWith : Reader Concrete := do
  let start ← tokenStart
  mark "<"
  let opening ←
    if ← mark? ">" then close .jsxOpeningElement start []
    else
      let tag ← tagName
      let all ← g.attributes
      if ← mark? "/>" then close .jsxSelfClosingElement start (tag :: all)
      else
        mark ">"
        close .jsxOpeningElement start (tag :: all)
  if opening.kind == .jsxSelfClosingElement then
    return opening
  let inner ← g.elementChildren
  let at_ ← tokenStart
  mark "</"
  let closing ←
    if ← mark? ">" then close .jsxClosingElement at_ []
    else
      let tag ← tagName
      mark ">"
      close .jsxClosingElement at_ [tag]
  close .jsxElement start (opening :: inner ++ [closing])

end FlowLint.Script.Grammar
