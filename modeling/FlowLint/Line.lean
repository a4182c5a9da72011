import FlowLint.Source
import FlowLint.Text.Class

/-!
# Lines of a unit

Lines are counted from 1. A line is blank if trimming leaves nothing, and a comment line if it
then starts with two slashes.

* `blankRuns` lists the first and last line of every longest stretch of blank lines.
* `segments` gathers the numbers of chosen lines, in groups that neutral lines do not divide.
-/

namespace FlowLint

/-- Characters of one line. -/
abbrev Line := List Char

/-- Does a line hold only whitespace? -/
def Line.isBlank (line : Line) : Bool :=
  (Text.trim line).isEmpty

/-- Is a line a comment that starts with two slashes? -/
def Line.isComment (line : Line) : Bool :=
  ['/', '/'].isPrefixOf (Text.trim line)

/-- The numbers of the lines with a property, where the first line has number `first`. -/
def numbersOf (p : Line → Bool) (first : Nat) : List Line → List Nat
  | [] => []
  | line :: rest =>
    if p line then first :: numbersOf p (first + 1) rest else numbersOf p (first + 1) rest

/-! ## Runs of blank lines -/

/-- A stretch of lines from the first number to the last one. -/
abbrev Run := Nat × Nat

/-- How many lines a run has. -/
def Run.length (r : Run) : Nat :=
  r.2 + 1 - r.1

/-- Put a line in front of the runs of the lines after it, joining the run it touches. -/
def Run.extend (number : Nat) : List Run → List Run
  | [] => [(number, number)]
  | r :: rest => if r.1 = number + 1 then (number, r.2) :: rest else (number, number) :: r :: rest

/-- Every longest run of blank lines, where the first line has number `first`. -/
def blankRunsFrom (first : Nat) : List Line → List Run
  | [] => []
  | line :: rest =>
    if line.isBlank then Run.extend first (blankRunsFrom (first + 1) rest)
    else blankRunsFrom (first + 1) rest

/-- Every longest run of at least `minLength` blank lines. -/
def blankRuns (minLength : Int) (lines : List Line) : List Run :=
  (blankRunsFrom 1 lines).filter fun r => minLength ≤ r.length

/-! ## Groups of lines -/

/-- What a line means for a group. -/
inductive Membership where
  /-- The line belongs to the group. -/
  | member
  /-- The line neither belongs to the group nor ends it. -/
  | neutral
  /-- The line ends the group. -/
  | divider
  deriving Repr, DecidableEq, Inhabited

/-- The numbers of the members between dividers, where the first line has number `first`. There
is one segment more than dividers, and a segment may be empty. -/
def segments (classify : Line → Membership) (first : Nat) : List Line → List (List Nat)
  | [] => [[]]
  | line :: rest =>
    match segments classify (first + 1) rest with
    | [] => []
    | seg :: segs =>
      match classify line with
      | .member => (first :: seg) :: segs
      | .neutral => seg :: segs
      | .divider => [] :: seg :: segs

end FlowLint
