import FlowLint.Json.Value
import FlowLint.Line
import FlowLint.Number.Arithmetic

/-!
# Complexity of a text

A heuristic on the raw text: lines of code, places where control may branch, the deepest nesting
of braces and the number of named functions, each with its factor.
-/

namespace FlowLint.Complexity

/-- A character of a word: an ASCII letter, a digit or an underscore. -/
def isWordChar (c : Char) : Bool :=
  c.isAlphanum || c = '_'

/-- In how many places of a text something starts. `inWord` says whether the text follows a
character of a word. -/
def countStarts (starts : Bool → List Char → Bool) (inWord : Bool) : List Char → Nat
  | [] => 0
  | c :: cs =>
    (if starts inWord (c :: cs) then 1 else 0) + countStarts starts (isWordChar c) cs

/-- What follows a word at the start of a text. -/
def after? (word : String) (cs : List Char) : Option (List Char) :=
  if word.toList.isPrefixOf cs then some (cs.drop word.length) else none

/-- Does an opening bracket follow, after any number of blanks? -/
def bracketFollows (cs : List Char) : Bool :=
  (cs.dropWhile Text.isBlank).head? == some '('

/-- A keyword followed by an opening bracket. -/
def headStarts (word : String) (inWord : Bool) (cs : List Char) : Bool :=
  !inWord && ((after? word cs).map bracketFollows).getD false

/-- A case of a choice: the keyword followed by a blank. -/
def caseStarts (inWord : Bool) (cs : List Char) : Bool :=
  !inWord && ((after? "case" cs).map fun rest => rest.head?.any Text.isBlank).getD false

/-- A named function: the keyword, blanks, a name and an opening bracket. -/
def namedFunctionStarts (_ : Bool) (cs : List Char) : Bool :=
  match after? "function" cs with
  | none => false
  | some rest =>
    let name := rest.dropWhile Text.isBlank
    rest.head?.any Text.isBlank && name.head?.any isWordChar
      && bracketFollows (name.dropWhile isWordChar)

/-- Logical operators of two characters, counted from left to right without overlap. -/
def logicalOperators : List Char → Nat
  | '&' :: '&' :: cs => logicalOperators cs + 1
  | '|' :: '|' :: cs => logicalOperators cs + 1
  | _ :: cs => logicalOperators cs
  | [] => 0

/-- Does a line have a question mark with a colon after it? -/
def holdsConditional (line : Line) : Bool :=
  (line.dropWhile (· != '?')).contains ':'

/-- The counts of places where control may branch, kind by kind. -/
def branchings (text : List Char) : List Nat :=
  ["if", "while", "for", "catch", "switch"].map (fun word => countStarts (headStarts word) false text)
    ++ [countStarts caseStarts false text,
        logicalOperators text,
        (splitLines text).countP holdsConditional]

/-- The deepest nesting of braces seen so far, after more text. -/
def deepestFrom (deepest nesting : Int) : List Char → Int
  | [] => deepest
  | c :: cs =>
    if c = '{' then deepestFrom (max deepest (nesting + 1)) (nesting + 1) cs
    else if c = '}' then deepestFrom deepest (nesting - 1) cs
    else deepestFrom deepest nesting cs

/-- The deepest nesting of braces. -/
def deepest (text : List Char) : Int :=
  deepestFrom 0 0 text

/-- The number of lines that are neither blank nor comments. -/
def codeLines (text : List Char) : Nat :=
  (splitLines text).countP fun (line : Line) => !line.isBlank && !line.isComment

/-- The number of named functions. -/
def namedFunctions (text : List Char) : Nat :=
  countStarts namedFunctionStarts false text

section

variable {m : Type → Type} {α : Type} [Monad m] [Arithmetic m α]

/-- A count times its factor, added to a total. -/
def addFactor (factor : Rat) (total : α) (count : Int) : m α := do
  plus total (← times (whole count) (decimal factor))

/-- The complexity of a text. -/
def ofText (text : List Char) : m α := do
  let mut total : α ← times (whole (codeLines text)) (decimal (1 / 10))
  for count in branchings text do
    total ← addFactor 2 total count
  total ← addFactor (3 / 2) total (deepest text)
  total ← addFactor (1 / 2) total (namedFunctions text)
  roundHalfUp 2 total

/-- The complexity of a source; what is not a text has none. -/
def ofSource (source : Json) : m α :=
  match source with
  | .string text => if text = "" then pure (decimal 0) else ofText text.toList
  | _ => pure (decimal 0)

end

end FlowLint.Complexity
