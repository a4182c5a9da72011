/-!
# Character classes

The classes of characters that the readers tell apart. "Blank" and "gap" differ: `isBlank` is
the class that trimming a line uses, `isGap` is what may stand between two tokens of a script,
and `isSpacing` is the narrower class that the search for an omitted semicolon skips.
-/

namespace FlowLint.Text

/-- The space separators of Unicode. -/
def isSpaceSeparator (c : Char) : Bool :=
  let n := c.toNat
  n = 0x20 || n = 0xA0 || n = 0x1680 || (0x2000 ≤ n && n ≤ 0x200A) || n = 0x202F || n = 0x205F
    || n = 0x3000

/-- Whitespace removed when a line is trimmed: space separators, the line and paragraph
separators, the ASCII controls 9 to 13 and 28 to 31, and next line. -/
def isBlank (c : Char) : Bool :=
  let n := c.toNat
  isSpaceSeparator c || (9 ≤ n && n ≤ 13) || (0x1C ≤ n && n ≤ 0x1F) || n = 0x85 || n = 0x2028
    || n = 0x2029

/-- Whitespace between two tokens of a script. -/
def isGap (c : Char) : Bool :=
  let n := c.toNat
  isSpaceSeparator c || (9 ≤ n && n ≤ 13) || n = 0xFEFF || n = 0x2028 || n = 0x2029 || n = 0x2060
    || n = 0x200B

/-- Whitespace that the search for an omitted semicolon skips: breaking spaces only. -/
def isSpacing (c : Char) : Bool :=
  let n := c.toNat
  (9 ≤ n && n ≤ 13) || n = 0x2028 || n = 0x2029
    || (isSpaceSeparator c && n != 0xA0 && n != 0x2007 && n != 0x202F)

/-- A line break that can stand for an omitted semicolon. -/
def isLineBreak (c : Char) : Bool :=
  c = '\n' || c.toNat = 0x2028 || c.toNat = 0x2029

/-- A character that ends a line comment. -/
def endsComment (c : Char) : Bool :=
  c = '\r' || isLineBreak c

/-- ASCII punctuation, which no name contains. -/
def isPunctuation (c : Char) : Bool :=
  ":;\x60\"'@#.,|^&<=>+-*/\\%?!~()[]\x7b\x7d".toList.contains c

/-- A character that can continue a name: all but controls, whitespace and punctuation. -/
def isNameChar (c : Char) : Bool :=
  0x1F < c.toNat && !isGap c && !isPunctuation c

/-- A character that can start a name. -/
def isNameStart (c : Char) : Bool :=
  isNameChar c && !c.isDigit

/-- A letter: an ASCII letter or any character of a name beyond ASCII. -/
def isLetter (c : Char) : Bool :=
  c.isAlpha || (0x80 ≤ c.toNat && isNameChar c)

/-- A hexadecimal digit. -/
def isHexDigit (c : Char) : Bool :=
  c.isDigit || ('a' ≤ c && c ≤ 'f') || ('A' ≤ c && c ≤ 'F')

/-- An octal digit. -/
def isOctalDigit (c : Char) : Bool :=
  '0' ≤ c && c ≤ '7'

/-- A line with its blank characters cut off at both ends. -/
def trim (line : List Char) : List Char :=
  ((line.dropWhile isBlank).reverse.dropWhile isBlank).reverse

end FlowLint.Text
