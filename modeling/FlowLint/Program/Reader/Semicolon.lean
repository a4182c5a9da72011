import FlowLint.Program.Reader.Cursor

/-!
# Omitted semicolons

Where a statement may end, a semicolon that is not written can stand for itself. Whether it does
is decided by the text that follows the last token: `Omitted.here` is the rule, a function of
that text and of whether an operator could follow. `omittedSemicolon` applies it, stepping over
comments that the rule does not look past.
-/

namespace FlowLint.Script

namespace Omitted

/-- What a stretch of whitespace and comments says about a semicolon. -/
inductive Gap where
  /-- A slash that starts no comment. -/
  | slash
  /-- A block comment within its line. -/
  | within
  /-- Whitespace and comments are over. -/
  | over
  deriving DecidableEq

/-- Does a block comment hold a line break, and what follows it. An open comment ends the text. -/
def blockComment : List Char → Bool × List Char
  | [] => (false, [])
  | '*' :: '/' :: cs => (false, cs)
  | c :: cs =>
    let (broken, rest) := blockComment cs
    (Text.isLineBreak c || broken, rest)

/-- Skip whitespace and comments. Unless `all`, a block comment ends the skip. -/
def skipGap (all : Bool) : Nat → Bool → List Char → Gap × List Char
  | 0, _, cs => (.over, cs)
  | fuel + 1, broken, cs =>
    match cs.dropWhile Text.isSpacing with
    | '/' :: '/' :: rest => skipGap all fuel broken (rest.dropWhile (!Text.isLineBreak ·))
    | '/' :: '*' :: rest =>
      let (inner, rest) := blockComment rest
      let broken := broken || inner
      if all || rest.isEmpty || rest.head? == some '/' then skipGap all fuel broken rest
      else (if broken then .over else .within, rest)
    | '/' :: rest => (.slash, rest)
    | rest => (.over, rest)

/-- After a line break: does the next character leave the statement open? -/
def endsBefore : List Char → Bool
  | [] => true
  | '.' :: rest => (rest.head?.map Char.isDigit).getD false
  | '+' :: rest => rest.head? == some '+'
  | '-' :: rest => rest.head? == some '-'
  | '!' :: rest => rest.head? != some '='
  | 'i' :: 'n' :: rest =>
    if !(rest.head?.map Text.isLetter).getD false then false
    else if "stanceof".toList.isPrefixOf rest then
      ((rest.drop 8).head?.map Text.isLetter).getD false
    else true
  | c :: _ => !("\x60,:;*%><=[(?^|&/".toList.contains c)

/-- Past the line break, skip all whitespace and comments and look at what comes next. -/
def afterBreak (cs : List Char) : Bool :=
  match skipGap true (cs.length + 1) false cs with
  | (.slash, _) => false
  | (_, rest) => endsBefore rest

/-- The rule. Without an operator to follow (`operand` false), a comment that reaches a line
break already ends the statement, unless a comma or an equals sign comes next. -/
def here (operator : Bool) : Nat → List Char → Bool
  | 0, _ => false
  | _, [] => true
  | fuel + 1, '/' :: cs =>
    match skipGap false (cs.length + 2) false ('/' :: cs) with
    | (.slash, _) => false
    | (gap, rest) =>
      if gap == .over && !operator && rest.head? != some ',' && rest.head? != some '=' then true
      else
        match rest with
        | [] => false
        | c :: more =>
          if c = '}' then true
          else if Text.isLineBreak c then afterBreak more
          else if Text.isSpacing c then here operator fuel more
          else false
  | fuel + 1, c :: cs =>
    if c = '}' then true
    else if Text.isLineBreak c then afterBreak cs
    else if Text.isSpacing c then here operator fuel cs
    else false

end Omitted

/-- Where an omitted semicolon stands, if one does: after the last token, or after a comment that
the rule had to step over. -/
def Cursor.omittedSemicolon (operator : Bool) (c : Cursor) : Nat → Option Cursor
  | 0 => none
  | fuel + 1 =>
    if Omitted.here operator (c.rest.length + 1) c.rest then some { c with last := c.point }
    else
      let c := c.drop (Cursor.gapLength Text.isGap c.rest)
      match commentLength c.rest with
      | some n => omittedSemicolon operator (c.drop n) fuel
      | none => none

/-- Does the statement end here without a semicolon? -/
def endsHere (operator : Bool) : Reader Bool := do
  let c ← get
  return (c.omittedSemicolon operator (c.rest.length + 1)).isSome

/-- Take an omitted semicolon if there is one. -/
def omitted? (operator : Bool) : Reader Bool := do
  let c ← get
  match c.omittedSemicolon operator (c.rest.length + 1) with
  | some c => set c; return true
  | none => return false

/-- The end of a statement: an omitted semicolon or a written one. -/
def semicolon (operator : Bool) : Reader Unit := do
  if !(← omitted? operator) then mark ";"

end FlowLint.Script
