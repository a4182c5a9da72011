import FlowLint.Script.Concrete
import FlowLint.Program.Reader.Cursor

/-!
# Tokens

Words, numbers, quoted strings, regular expressions and operators. A recogniser takes the text
and returns the length of the token at its start, the longest one if several fit.
-/

namespace FlowLint.Script

/-! ## Recognisers -/

/-- A run of digits in which single underscores may stand between two digits. -/
def digitsLength (digit : Char → Bool) : List Char → Nat
  | [] => 0
  | c :: '_' :: d :: cs =>
    if digit c then if digit d then 2 + digitsLength digit (d :: cs) else 1 else 0
  | c :: cs => if digit c then 1 + digitsLength digit cs else 0

/-- An exponent, or nothing. -/
def exponentLength : List Char → Nat
  | c :: cs =>
    if c = 'e' || c = 'E' then
      let signed := match cs with
        | '+' :: _ | '-' :: _ => 1
        | _ => 0
      let digits := digitsLength Char.isDigit (cs.drop signed)
      if digits = 0 then 0 else 1 + signed + digits
    else 0
  | [] => 0

/-- A fraction starting at the point, with its exponent. -/
private def fractionLength (cs : List Char) : Nat :=
  let digits := digitsLength Char.isDigit (cs.drop 1)
  1 + digits + exponentLength (cs.drop (1 + digits))

/-- Digits in a radix after `0x`, `0o` or `0b`, with the suffix of a big integer. -/
private def radixLength (digit : Char → Bool) (cs : List Char) : Option Nat :=
  let digits := digitsLength digit (cs.drop 2)
  if digits = 0 then none
  else if (cs.drop (2 + digits)).head? == some 'n' then some (3 + digits)
  else some (2 + digits)

/-- The integer part that may carry a fraction or an exponent: `0`, or digits whose first is not
zero after at most one zero. -/
private def integerPartLength : List Char → Nat
  | '0' :: d :: cs =>
    if d.isDigit && d != '0' then 1 + digitsLength Char.isDigit (d :: cs) else 1
  | cs => digitsLength Char.isDigit cs

/-- Length of the number at the start of a text; 0 if there is none. -/
def numberLength (cs : List Char) : Nat :=
  let radix := match cs with
    | '0' :: x :: _ =>
      if x = 'x' || x = 'X' then radixLength Text.isHexDigit cs
      else if x = 'o' || x = 'O' then radixLength Text.isOctalDigit cs
      else if x = 'b' || x = 'B' then radixLength (fun c => c = '0' || c = '1') cs
      else none
    | _ => none
  match radix with
  | some n => n
  | none =>
    match cs with
    | '.' :: d :: _ => if d.isDigit then fractionLength cs else 0
    | _ =>
      let digits := digitsLength Char.isDigit cs
      let plain :=
        if 0 < digits && (cs.drop digits).head? == some 'n' then digits + 1 else digits
      let whole := integerPartLength cs
      let decimal :=
        if whole = 0 then 0
        else
          match cs.drop whole with
          | '.' :: _ => whole + fractionLength (cs.drop whole)
          | _ =>
            let e := exponentLength (cs.drop whole)
            if e = 0 then 0 else whole + e
      max plain decimal

/-- Length of a braced code point escape, counted from the brace; 0 if malformed. -/
private def bracedLength : List Char → Nat
  | '{' :: cs =>
    let digits := (cs.takeWhile Text.isHexDigit).length
    if 0 < digits && (cs.drop digits).head? == some '}' then digits + 2 else 0
  | _ => 0

/-- Length of a `\u` escape in a name; 0 if there is none. -/
private def unicodeEscapeLength : List Char → Nat
  | '\\' :: 'u' :: cs =>
    if 4 ≤ cs.length && (cs.take 4).all Text.isHexDigit then 6
    else
      let braced := bracedLength cs
      if braced = 0 then 0 else 2 + braced
  | _ => 0

/-- Length of the name at the start of a text, at most `fuel` characters or escapes of it. -/
private def nameTailLength : Nat → List Char → Nat
  | 0, _ => 0
  | _, [] => 0
  | fuel + 1, c :: cs =>
    if Text.isNameChar c then 1 + nameTailLength fuel cs
    else
      let n := unicodeEscapeLength (c :: cs)
      if n = 0 then 0 else n + nameTailLength fuel ((c :: cs).drop n)

/-- Length of the name at the start of a text; 0 if there is none. -/
def nameLength (cs : List Char) : Nat :=
  match cs with
  | [] => 0
  | c :: _ =>
    if Text.isNameStart c || c = '\\' then nameTailLength (cs.length + 1) cs else 0

/-- Length of the escape sequence at the start of a quoted text; `none` if it is malformed. -/
def escapeLength : List Char → Option Nat
  | '\\' :: c :: cs =>
    if c = 'x' then
      if 2 ≤ cs.length && (cs.take 2).all Text.isHexDigit then some 4 else none
    else if c = 'u' then
      let n := unicodeEscapeLength ('\\' :: c :: cs)
      if n = 0 then none else some n
    else if Text.isOctalDigit c then
      some (1 + ((c :: cs).take 3 |>.takeWhile Text.isOctalDigit).length)
    else if c = '\r' || c = '?' then
      if (cs.head?.map Text.isLineBreak).getD false then some 3 else some 2
    else some 2
  | _ => none

/-- Length of a quoted string after its opening quote, closing quote included. A line break is
only passed if nothing but whitespace and comments comes before the closing quote. -/
private def quotedTailLength (quote : Char) : Nat → List Char → Option Nat
  | 0, _ => none
  | _, [] => none
  | fuel + 1, c :: cs =>
    if c = quote then some 1
    else if c = '\\' then do
      let n ← escapeLength (c :: cs)
      return n + (← quotedTailLength quote fuel ((c :: cs).drop n))
    else if c = '\n' || c = '\r' then
      let next := Cursor.toToken { rest := c :: cs }
      if next.rest.head? == some quote then some ((c :: cs).length - next.rest.length + 1)
      else none
    else do return 1 + (← quotedTailLength quote fuel cs)

/-- Length of the quoted string at the start of a text. -/
def stringLength : List Char → Option Nat
  | c :: cs =>
    if c = '\'' || c = '"' then (quotedTailLength c (cs.length + 1) cs).map (· + 1) else none
  | [] => none

/-- Length of a character class of a regular expression, from its bracket. -/
private def classLength : List Char → Option Nat
  | [] => none
  | ']' :: _ => some 1
  | '\\' :: c :: cs => if c = '\n' then none else (classLength cs).map (· + 2)
  | c :: cs => if c = '\n' || c = '\\' then none else (classLength cs).map (· + 1)

/-- Length of the pattern of a regular expression. -/
private def patternLength : Nat → List Char → Nat
  | 0, _ => 0
  | _, [] => 0
  | fuel + 1, c :: cs =>
    if c = '\n' || c = '/' then 0
    else if c = '\\' then
      match cs with
      | d :: rest => if d = '\n' then 0 else 2 + patternLength fuel rest
      | [] => 0
    else if c = '[' then
      match classLength cs with
      | some n => 1 + n + patternLength fuel (cs.drop n)
      | none => 0
    else 1 + patternLength fuel cs

/-- Length of the regular expression at the start of a text, with its flags. -/
def regexLength : List Char → Option Nat
  | '/' :: cs =>
    let n := patternLength (cs.length + 1) cs
    if n = 0 then none
    else
      match cs.drop n with
      | '/' :: flags => some (n + 2 + (flags.takeWhile fun c => 'a' ≤ c && c ≤ 'z').length)
      | _ => none
  | _ => none

/-- The operators that stand between or around operands, longest first. -/
def operators : List String :=
  [">>>=", "...", "===", "!==", "**=", "<<=", ">>=", ">>>", "&&=", "||=", "??=", "=>", "==", "!=",
    "<=", ">=", "&&", "||", "??", "?.", "++", "--", "+=", "-=", "*=", "/=", "%=", "&=", "|=", "^=",
    "<<", ">>", "**", "=", "<", ">", "+", "-", "*", "/", "%", "&", "|", "^", "!", "~", "?", ".", ",",
    ";", ":", "(", ")", "[", "]", "\x7b", "\x7d"]

/-- The operator at the start of a text. A question mark before a fraction stands alone. -/
def operatorAt (cs : List Char) : String :=
  match operators.find? (·.toList.isPrefixOf cs) with
  | none => ""
  | some op =>
    if op = "?." && ((cs.drop 2).head?.map Char.isDigit).getD false then "?" else op

/-- The words that are never names. -/
def reservedWords : List String :=
  ["break", "case", "catch", "class", "const", "continue", "debugger", "default", "delete", "do",
    "else", "export", "extends", "false", "finally", "for", "function", "if", "import", "in",
    "instanceof", "new", "null", "return", "super", "switch", "this", "throw", "true", "try",
    "typeof", "var", "void", "while", "with"]

/-- Can a word be a name? -/
def isName (word : String) : Bool :=
  word != "" && !reservedWords.contains word

/-! ## Readers -/

/-- The operator that comes next, without reading it; empty if there is none. -/
def nextOperator : Reader String := do
  return operatorAt (← ahead)

/-- The word that comes next, without reading it; empty if there is none. -/
def nextWord : Reader String := do
  let cs ← ahead
  return String.ofList (cs.take (nameLength cs))

/-- Read the given operator; a longer operator does not count. -/
def operator (op : String) : Reader Unit := do
  guard ((← nextOperator) == op)
  mark op

/-- Read the given operator if it comes next, and say whether it did. -/
def operator? (op : String) : Reader Bool := do
  if (← nextOperator) == op then
    mark op
    return true
  else
    return false

/-- Read the given word. -/
def word (w : String) : Reader Unit := do
  guard ((← nextWord) == w)
  mark w

/-- Read the given word if it comes next, and say whether it did. -/
def word? (w : String) : Reader Bool := do
  if (← nextWord) == w then
    mark w
    return true
  else
    return false

/-- A node without children that covers the next characters. -/
def leaf (kind : Kind) (n : Nat) : Reader Concrete := do
  let start := (← get).point
  let text ← take n
  return .node kind .part ⟨start, (← get).last⟩ text []

/-- A node from a start point to the last token. -/
def close (kind : Kind) (start : Point) (children : List Concrete) : Reader Concrete := do
  return .node kind .part ⟨start, (← get).last⟩ "" children

/-- Read the next word as a leaf if it can be one. -/
def wordLeaf (kind : Kind) (accept : String → Bool) : Reader Concrete := do
  toToken
  let w ← nextWord
  guard (w != "" && accept w)
  leaf kind w.length

/-- Read a name. -/
def name : Reader Concrete :=
  wordLeaf .identifier isName

/-- Read a quoted string. -/
def stringToken : Reader Concrete := do
  toToken
  let n ← stringLength (← get).rest
  leaf .string n

/-- Read a private name, such as `#field`. -/
def privateName : Reader Concrete := do
  toToken
  match (← get).rest with
  | '#' :: cs =>
    let n := nameLength cs
    guard (0 < n)
    leaf .privatePropertyIdentifier (n + 1)
  | _ => failure

end FlowLint.Script
