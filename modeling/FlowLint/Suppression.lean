import FlowLint.Line
import FlowLint.Text.Fold

/-!
# Suppression directives

A comment can exclude lines from all rules: two slashes, blanks, a marker and one of four
endings, in any case of letters.

* `-start` excludes all lines up to the next line with `-end`, both included. Without a later
  end it excludes nothing.
* `-line` excludes its own line.
* `-next` excludes the line after it, if there is one.
-/

namespace FlowLint

/-- An inclusive stretch of lines. -/
structure Region where
  first : Int
  last : Int
  deriving Repr, DecidableEq, Inhabited

/-- Does a region hold a line? -/
def Region.contains (r : Region) (line : Int) : Bool :=
  r.first ≤ line && line ≤ r.last

/-- The lines that no rule reports. -/
structure Suppression where
  regions : List Region := []
  singleLines : List Int := []
  nextLines : List Int := []
  deriving Repr, DecidableEq, Inhabited

namespace Suppression

/-- Is a line excluded? -/
def covers (s : Suppression) (line : Int) : Bool :=
  s.regions.any (·.contains line) || s.singleLines.contains line || s.nextLines.contains line

/-- The lines from `first` to `last`. -/
def linesBetween (first last : Int) : List Int :=
  (List.range (last + 1 - first).toNat).map fun (k : Nat) => first + (k : Int)

/-- Is any line from `first` to `last` excluded? -/
def touches (s : Suppression) (first last : Int) : Bool :=
  (linesBetween first last).any s.covers

end Suppression

namespace Directive

/-- The marker in directives unless another one is asked for. -/
def defaultMarker : String := "@nr-analyzer-ignore"

/-- Does a marker follow, after any number of blanks? -/
def markerFollows (marker : List Char) : List Char → Bool
  | [] => marker.isEmpty
  | c :: cs => Text.startsLike marker (c :: cs) || (Text.isBlank c && markerFollows marker cs)

/-- Do two slashes and a marker stand anywhere in a line? -/
def occurs (marker : List Char) : Line → Bool
  | [] => false
  | c :: cs =>
    (match c, cs with
      | '/', '/' :: rest => markerFollows marker rest
      | _, _ => false) || occurs marker cs

/-- Does a line hold the directive with an ending? -/
def holds (marker ending : String) (line : Line) : Bool :=
  occurs (marker.toList ++ '-' :: ending.toList) (Text.trim line)

/-- The number of the first line that ends a region, where the first line has number `first`. -/
def regionEnd? (marker : String) (first : Nat) : List Line → Option Nat
  | [] => none
  | line :: rest =>
    if holds marker "end" line then some first else regionEnd? marker (first + 1) rest

/-- The directives of lines, where the first line has number `first`. -/
def suppressionFrom (marker : String) (first : Nat) : List Line → Suppression
  | [] => {}
  | line :: rest =>
    let after := suppressionFrom marker (first + 1) rest
    let region : Option Region :=
      if holds marker "start" line then
        (regionEnd? marker (first + 1) rest).map fun last => ⟨first, last⟩
      else none
    { regions := region.toList ++ after.regions
      singleLines :=
        if holds marker "line" line then (first : Int) :: after.singleLines
        else after.singleLines
      nextLines :=
        if holds marker "next" line && !rest.isEmpty then ((first + 1 : Nat) : Int) :: after.nextLines
        else after.nextLines }

/-- The lines that the directives of a unit exclude. -/
def suppression (marker : String) (lines : List Line) : Suppression :=
  suppressionFrom marker 1 lines

end Directive

end FlowLint
