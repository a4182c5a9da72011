import FlowLint.Source
import FlowLint.Text.Class

/-!
# Reading position and reader combinators

A `Cursor` is the rest of the text with the point it starts at, and the point where the last
token ended. A `Reader` consumes text or fails; a failed alternative leaves the cursor where it
was.
-/

namespace FlowLint.Script

/-- The rest of the text, where it starts, and where the last token ended. -/
structure Cursor where
  rest : List Char
  point : Point := {}
  last : Point := {}
  deriving Repr, Inhabited

/-- A reader of part of a script. -/
abbrev Reader := StateT Cursor Option

namespace Cursor

/-- The cursor after a given number of characters. -/
def drop (c : Cursor) : Nat → Cursor
  | 0 => c
  | n + 1 =>
    match c.rest with
    | [] => c
    | ch :: rest => drop { c with rest, point := c.point.next ch } n

/-- The number of characters of the longest start of the text that is whitespace. -/
def gapLength (p : Char → Bool) (cs : List Char) : Nat :=
  (cs.takeWhile p).length

end Cursor

/-! ## Comments -/

/-- Characters before the first `*/`, the mark included, if there is one. -/
def blockCommentLength : List Char → Option Nat
  | [] => none
  | '*' :: '/' :: _ => some 2
  | _ :: cs => (blockCommentLength cs).map (· + 1)

/-- Length of the comment at the start of a text, if there is one. -/
def commentLength : List Char → Option Nat
  | '/' :: '/' :: cs => some (2 + (cs.takeWhile (!Text.endsComment ·)).length)
  | '/' :: '*' :: cs => (blockCommentLength cs).map (· + 2)
  | _ => none

/-- Length of a markup comment, which reaches to the end of its line. -/
def markupCommentLength : List Char → Option Nat
  | '<' :: '!' :: '-' :: '-' :: cs => some (4 + (cs.takeWhile (!Text.isLineBreak ·)).length)
  | '-' :: '-' :: '>' :: cs => some (3 + (cs.takeWhile (!Text.isLineBreak ·)).length)
  | _ => none

/-- Skip whitespace and comments, at most `fuel` of them; `markup` also skips markup comments. -/
def Cursor.skipGaps (markup : Bool) (c : Cursor) : Nat → Cursor
  | 0 => c
  | fuel + 1 =>
    let c := c.drop (Cursor.gapLength Text.isGap c.rest)
    match commentLength c.rest with
    | some n => skipGaps markup (c.drop n) fuel
    | none =>
      match if markup then markupCommentLength c.rest else none with
      | some n => skipGaps markup (c.drop n) fuel
      | none => c

/-- The cursor at the next token, where an operator may follow. -/
def Cursor.toToken (c : Cursor) : Cursor :=
  c.skipGaps false (c.rest.length + 1)

/-- The cursor at the next token, where an operand or a statement starts. -/
def Cursor.toOperand (c : Cursor) : Cursor :=
  c.skipGaps true (c.rest.length + 1)

/-! ## Readers -/

/-- Move to the next token. -/
def toToken : Reader Unit :=
  modify Cursor.toToken

/-- Move to the next operand and say where it starts. -/
def operandStart : Reader Point := do
  modify Cursor.toOperand
  return (← get).point

/-- Move to the next token and say where it starts. -/
def tokenStart : Reader Point := do
  toToken
  return (← get).point

/-- The text from the next token on. -/
def ahead : Reader (List Char) := do
  return (← get).toToken.rest

/-- Take a number of characters as one token. -/
def take (n : Nat) : Reader String := do
  let c ← get
  let after := c.drop n
  set { after with last := after.point }
  return String.ofList (c.rest.take n)

/-- Read the given mark. -/
def mark (s : String) : Reader Unit := do
  toToken
  let c ← get
  guard (s.toList.isPrefixOf c.rest)
  discard (take s.length)

/-- Read the given mark if it comes next, and say whether it did. -/
def mark? (s : String) : Reader Bool := do
  if s.toList.isPrefixOf (← ahead) then
    mark s
    return true
  else
    return false

/-- Repeat a step, at most `fuel` times, until it declines. -/
def iterateAtMost {α : Type} (step : α → Reader (Option α)) : Nat → α → Reader α
  | 0, a => pure a
  | fuel + 1, a => do
    match ← step a with
    | none => return a
    | some a => iterateAtMost step fuel a

/-- Repeat a step until it declines. Each step has to consume a character, so the length of the
rest bounds their number. -/
def iterate {α : Type} (step : α → Reader (Option α)) (a : α) : Reader α := do
  iterateAtMost step ((← get).rest.length + 1) a

/-- Run a reader without moving, and say whether it succeeds. -/
def succeeds {α : Type} (r : Reader α) : Reader Bool := do
  return (r.run (← get)).isSome

end FlowLint.Script
