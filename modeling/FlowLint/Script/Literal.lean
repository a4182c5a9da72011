import FlowLint.Number.Reading

/-!
# Values of literals

* `cook` resolves the escape sequences of a quoted string. The text is first cut into `Piece`s,
  plain characters and escape sequences, and each piece has a meaning of its own. The result is a
  list of code points, because an escape may name half of a surrogate pair.
* `numberValue` is the value of a number literal in any of its spellings.
-/

namespace FlowLint.Script

/-- Why a literal has no value. -/
inductive LiteralError where
  /-- An escape names a code point beyond the last one. -/
  | beyondUnicode
  /-- An escape names a code point that does not even fit 31 bits. -/
  | beyondWord
  /-- An escaped digit is not an octal one. -/
  | notOctal
  /-- The text is no number. -/
  | notNumber
  /-- The integer is too large for a double. -/
  | tooLarge
  deriving Repr, DecidableEq

/-! ## Strings -/

/-- A part of a quoted string: a character, or an escape sequence without its backslash. -/
inductive Piece where
  | plain (c : Char)
  | escape (sequence : List Char)
  deriving Repr, DecidableEq

/-- Length of a hexadecimal code point in braces, counted from the brace; 0 if there is none. -/
def bracedCodePointLength : List Char → Nat
  | '{' :: cs =>
    let digits := (cs.takeWhile Text.isHexDigit).length
    if 0 < digits && (cs.drop digits).head? == some '}' then digits + 2 else 0
  | _ => 0

/-- Do a number of hexadecimal digits come next? -/
def startsWithHex (n : Nat) (cs : List Char) : Bool :=
  n ≤ cs.length && (cs.take n).all Text.isHexDigit

/-- How many characters after a backslash belong to its escape sequence: a code point in braces,
four or two hexadecimal digits, up to three octal digits, a carriage return with its line feed,
or one character of any other kind. -/
def sequenceLength : List Char → Nat
  | [] => 0
  | 'u' :: cs =>
    if 0 < bracedCodePointLength cs then bracedCodePointLength cs + 1
    else if startsWithHex 4 cs then 5
    else 1
  | 'x' :: cs => if startsWithHex 2 cs then 3 else 1
  | '\r' :: '\n' :: _ => 2
  | c :: cs =>
    if Text.isOctalDigit c then ((c :: cs).take 3 |>.takeWhile Text.isOctalDigit).length else 1

/-- Cut a quoted text into pieces. A backslash at the very end is plain text. -/
def pieces : List Char → List Piece
  | [] => []
  | c :: cs =>
    if c = '\\' && !cs.isEmpty then
      .escape (cs.take (sequenceLength cs)) :: pieces (cs.drop (sequenceLength cs))
    else .plain c :: pieces cs
termination_by cs => cs.length
decreasing_by all_goals simp only [List.length_drop, List.length_cons]; omega

/-- The value of hexadecimal digits. -/
def hexValue (cs : List Char) : Nat :=
  Reading.ofDigits 16 (cs.filterMap (Text.radixValue? 16))

/-- The code point with a number, if there is one. -/
def codePoint (n : Nat) : Except LiteralError (List Nat) :=
  if n ≤ 0x10FFFF then .ok [n]
  else if n < Nat.pow 2 31 then .error .beyondUnicode
  else .error .beyondWord

/-- The letters that stand for a control character, and line breaks, which stand for nothing. -/
def simpleEscapes : List (List Char × List Nat) :=
  [(['n'], [10]), (['t'], [9]), (['r'], [13]), (['b'], [8]), (['f'], [12]), (['v'], [11]),
    (['\n'], []), (['\r'], []), (['\r', '\n'], []), ([Char.ofNat 0x2028], []),
    ([Char.ofNat 0x2029], [])]

/-- What an escape sequence without digits stands for, if it is one of those. -/
def simpleEscape? (sequence : List Char) : Option (List Nat) :=
  simpleEscapes.lookup sequence

/-- What a piece stands for. -/
def Piece.meaning : Piece → Except LiteralError (List Nat)
  | plain c => .ok [c.toNat]
  | escape s =>
    match simpleEscape? s with
    | some points => .ok points
    | none =>
      match s with
      | 'u' :: '{' :: digits => codePoint (hexValue digits)
      | 'u' :: d :: digits => codePoint (hexValue (d :: digits))
      | 'x' :: d :: digits => codePoint (hexValue (d :: digits))
      | s =>
        if !s.isEmpty && s.all Text.isDigit then
          match s.mapM (Text.radixValue? 8) with
          | some values => codePoint (Reading.ofDigits 8 values)
          | none => .error .notOctal
        else .ok (s.map Char.toNat)

/-- The meanings of several pieces, one after the other. -/
def meanings : List Piece → Except LiteralError (List Nat)
  | [] => .ok []
  | p :: ps => do return (← p.meaning) ++ (← meanings ps)

/-- The code points of a quoted string, given the text between its quotes. -/
def cook (raw : List Char) : Except LiteralError (List Nat) :=
  meanings (pieces raw)

/-! ## Numbers -/

/-- The double of a natural number, if it is in range. -/
def doubleOfNat (n : Nat) : Except LiteralError Binary64 :=
  match Binary64.ofRat n with
  | .infinite _ => .error .tooLarge
  | x => .ok x

/-- The radix that a second character announces after a zero. -/
def announcedRadix? (c : Char) : Option Nat :=
  if c = 'x' || c = 'X' then some 16
  else if c = 'o' || c = 'O' then some 8
  else if c = 'b' || c = 'B' then some 2
  else none

/-- The double that a decimal text stands for. -/
def decimalValue (text : List Char) : Except LiteralError Binary64 :=
  match Reading.binary64? text with
  | some x => .ok x
  | none => .error .notNumber

/-- The double of digits in a radix. -/
def radixNumber (radix : Nat) (digits : List Char) : Except LiteralError Binary64 :=
  match Reading.digitValues radix digits with
  | some values => doubleOfNat (Reading.ofDigits radix values)
  | none => .error .notNumber

/-- Digits after a leading zero are octal, unless an 8 or a 9 is among them. -/
def zeroLed (text : List Char) : Except LiteralError Binary64 :=
  if text.any fun c => c = '8' || c = '9' then decimalValue text else radixNumber 8 text

/-- The value of a number literal; `none` for a big integer. Underscores do not count. -/
def numberValue (raw : List Char) : Except LiteralError (Option Binary64) :=
  let text := raw.filter (· != '_')
  if text.getLast? == some 'n' then .ok none
  else
    some <$> match text with
      | '0' :: c :: digits =>
        match announcedRadix? c with
        | some radix => radixNumber radix (Reading.strip (c :: digits)).tail
        | none => if text.all Text.isDigit then zeroLed text else decimalValue text
      | _ => decimalValue text

end FlowLint.Script
