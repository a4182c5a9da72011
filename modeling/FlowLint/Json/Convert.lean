import FlowLint.Fault
import FlowLint.Json.Value
import FlowLint.Number.Reading

/-!
# Numbers from structured data

Whole numbers and doubles from numbers, truth values and texts.
-/

namespace FlowLint

/-- The integer part of a rational: what is left when the fraction is cut off. -/
def truncate (q : Rat) : Int :=
  if q < 0 then q.ceil else q.floor

/-- An integer fits into 64 bits if it is less than this and not less than its negative. -/
def wordBound : Int :=
  Int.pow 2 63

/-- The double nearest to an integer, unless it is beyond all doubles. -/
def Binary64.ofInt (n : Int) : Except Fault Binary64 :=
  match Binary64.ofRat n with
  | .infinite _ => .error .unbounded
  | x => .ok x

namespace Json

/-- The whole number of a value; fractions are cut off. -/
def toInt : Json → Except Fault Int
  | bool b => .ok (if b then 1 else 0)
  | int n => .ok n
  | float x =>
    match x with
    | .nan => .error .notANumber
    | .infinite _ => .error .unbounded
    | .negativeZero => .ok 0
    | .finite v => .ok (truncate v)
  | string s =>
    match Reading.integer? 10 s.toList with
    | some n => .ok n
    | none => .error .notANumber
  | null | array _ | object _ => .error .wrongType

/-- The double of a value. -/
def toBinary64 : Json → Except Fault Binary64
  | bool b => .ok (.finite (if b then 1 else 0))
  | int n => Binary64.ofInt n
  | float x => .ok x
  | string s =>
    match Reading.binary64? s.toList with
    | some x => .ok x
    | none => .error .notANumber
  | null | array _ | object _ => .error .wrongType

/-- A whole number between two bounds. What is not a number at all gives a default; an infinite
value is an error. -/
def clamped (least greatest fallback : Int) (j : Json) : Except Fault Int :=
  match j.toInt with
  | .ok n => .ok (max least (min greatest n))
  | .error .unbounded => .error .unbounded
  | .error _ => .ok fallback

end Json

end FlowLint
