import FlowLint.Rule.Remark

/-!
# Rules on lines

These rules look at the text of a unit line by line. A run of lines is passed over in silence
if a directive covers one of its lines.

* `blankRunRemarks`: two or more blank lines in a row.
* `commentedOutRemarks`: two or more comment lines, which blank lines may separate.
* `todoRemarks`: a line with a marker for unfinished work.
-/

namespace FlowLint

/-- Two or more blank lines in a row. -/
def blankRunRemarks (suppression : Suppression) (lines : List Line) : List Remark :=
  ((blankRuns 2 lines).filter fun r => !suppression.touches r.1 r.2).map fun r =>
    .finding (.found .blankRun
      ("Remove excessive empty lines (" ++ digitsText r.length ++ " consecutive empty lines)")
      (.ofLines r.1 1 r.2 1) none)

/-! ## Commented-out code -/

/-- What a line means for a run of comment lines. Directives are not counted as comments. -/
def commentMembership (marker : String) (line : Line) : Membership :=
  if line.isBlank then .neutral
  else if line.isComment && !Directive.occurs marker.toList line then .member
  else .divider

/-- The remark on a run of comment lines, given their numbers; one line alone is no run. -/
def commentedOutRemark (suppression : Suppression) (lines : List Line) (numbers : List Nat) :
    List Remark :=
  match numbers with
  | first :: second :: more =>
    let last := (second :: more).getLast?.getD first
    if suppression.touches first last then []
    else
      let width := ((lines[last - 1]?).getD []).length
      [.finding (.found .commentedOutCode
        ("Remove commented-out code (" ++ digitsText numbers.length
          ++ " consecutive comment lines)")
        (.ofLines first 1 last (width + 1)) none)]
  | _ => []

/-- Two or more comment lines, which blank lines may separate. -/
def commentedOutRemarks (suppression : Suppression) (marker : String) (lines : List Line) :
    List Remark :=
  (segments (commentMembership marker) 1 lines).flatMap (commentedOutRemark suppression lines)

/-! ## Unfinished work -/

/-- The upper case of a letter of a marker. -/
def upperMarker (c : Char) : Char :=
  if c = 'ı' then 'I' else c.toUpper

/-- The marker at the start of a text, as it is written there. -/
def markerAt? (cs : List Char) : Option (List Char) :=
  ["TODO", "FIXME"].findSome? fun word =>
    if Text.startsLike (word.toList ++ [':']) cs then some (cs.take word.length) else none

/-- The first marker of a line and the column where it starts, counting from `first`. -/
def firstMarker? (first : Nat) : Line → Option (Nat × List Char)
  | [] => none
  | c :: cs =>
    match markerAt? (c :: cs) with
    | some word => some (first, word)
    | none => firstMarker? (first + 1) cs

/-- The remark on one line with its number. -/
def todoRemark (number : Nat) (line : Line) : List Remark :=
  match firstMarker? 1 line with
  | some (column, word) =>
    [.finding (.found .todoComment
      (String.ofList (word.map upperMarker) ++ " comment found - consider resolving")
      (.ofLines number column number (line.length + 1)) none)]
  | none => []

/-- Lines with a marker for unfinished work, where the first line has number `first`. -/
def todoRemarks (first : Nat) : List Line → List Remark
  | [] => []
  | line :: rest => todoRemark first line ++ todoRemarks (first + 1) rest

end FlowLint
