/-!
# Places in a source text

Two ways to name a place are in use.

* `Point` is what reading a text yields: a row counted from 0 and an offset in UTF-8 bytes
  from the start of that row.
* `Position` is what people see: a line counted from 1 and a column that counts code points
  from 1.

`column` turns the byte offset of a point into a column, given the lines of the text.
-/

namespace FlowLint

/-- A place in a text being read: row from 0, UTF-8 byte offset within the row. -/
structure Point where
  row : Nat := 0
  byte : Nat := 0
  deriving Repr, DecidableEq, Inhabited

/-- Moving over one character: a line feed starts the next row. -/
def Point.next (p : Point) (c : Char) : Point :=
  if c = '\n' then { row := p.row + 1, byte := 0 } else { p with byte := p.byte + c.utf8Size }

/-- A stretch of text between two points. -/
structure Span where
  start : Point := {}
  stop : Point := {}
  deriving Repr, DecidableEq, Inhabited

/-- A 1-based line and column. Values read from stored data may be any integer. -/
structure Position where
  line : Int
  column : Int
  deriving Repr, DecidableEq, Inhabited

/-- Start and end position of a construct. -/
structure SourceRange where
  start : Position
  stop : Position
  deriving Repr, DecidableEq, Inhabited

/-- The range between two line and column pairs. -/
def SourceRange.ofLines (line column endLine endColumn : Int) : SourceRange :=
  ⟨⟨line, column⟩, ⟨endLine, endColumn⟩⟩

/-- How many characters of a line start within its first `bytes` bytes. -/
def charsWithin : List Char → Nat → Nat
  | [], _ => 0
  | _, 0 => 0
  | c :: cs, bytes + 1 => 1 + charsWithin cs (bytes + 1 - c.utf8Size)

/-- The lines of a text, cut at line feeds; there is always at least one. -/
def splitLines : List Char → List (List Char)
  | [] => [[]]
  | c :: cs =>
    if c = '\n' then [] :: splitLines cs
    else
      match splitLines cs with
      | [] => [[c]]
      | line :: rest => (c :: line) :: rest

/-- The 1-based code point column of a point. A row past the end keeps its byte offset. -/
def column (lines : Array (List Char)) (p : Point) : Nat :=
  match lines[p.row]? with
  | none => p.byte + 1
  | some line => charsWithin line p.byte + 1

end FlowLint
