/-!
# Double precision numbers

A double is kept as the exact rational it stands for, so that every operation is "compute
exactly, then round". `ofRat` is that rounding: to the nearest of 53 significant bits, a tie to
the even one, with gradual underflow and overflow to infinity.
-/

namespace FlowLint

/-- A double precision number. Zero has a sign; `finite 0` is the positive one. -/
inductive Binary64 where
  | finite (value : Rat)
  | negativeZero
  | infinite (negative : Bool)
  | nan
  deriving Repr, DecidableEq, Inhabited

/-- The nearest integer, a tie going to the even one. -/
def roundHalfEven (q : Rat) : Int :=
  let low := q.floor
  let rest := q - low
  if rest < 1 / 2 then low
  else if 1 / 2 < rest then low + 1
  else if low % 2 = 0 then low
  else low + 1

/-- Two to an integer power. -/
def twoPow (e : Int) : Rat :=
  if 0 ≤ e then (Nat.pow 2 e.toNat : Rat) else 1 / (Nat.pow 2 (-e).toNat : Rat)

/-- Ten to an integer power. -/
def tenPow (e : Int) : Rat :=
  if 0 ≤ e then (Nat.pow 10 e.toNat : Rat) else 1 / (Nat.pow 10 (-e).toNat : Rat)

namespace Binary64

/-- The largest `e` with `2 ^ e ≤ q`, for a positive `q`. -/
def exponentOf (q : Rat) : Int :=
  let guess : Int := (q.num.natAbs.log2 : Int) - (q.den.log2 : Int)
  if q < twoPow guess then guess - 1 else guess

/-- The exponent of the last place that a double has for a positive `q`. -/
def placeOf (q : Rat) : Int :=
  max (exponentOf q - 52) (-1074)

/-- A positive rational rounded to 53 significant bits, without a limit on its size. -/
def roundPositive (q : Rat) : Rat :=
  let unit := twoPow (placeOf q)
  (roundHalfEven (q / unit) : Rat) * unit

/-- The nearest double. -/
def ofRat (q : Rat) : Binary64 :=
  if q = 0 then finite 0
  else
    let size := roundPositive (if q < 0 then -q else q)
    if twoPow 1024 ≤ size then infinite (q < 0)
    else if size = 0 then if q < 0 then negativeZero else finite 0
    else finite (if q < 0 then -size else size)

/-- The exact value of a finite double. -/
def toRat? : Binary64 → Option Rat
  | finite v => some v
  | negativeZero => some 0
  | _ => none

/-- Is the sign bit set? -/
def isNegative : Binary64 → Bool
  | finite v => v < 0
  | negativeZero => true
  | infinite negative => negative
  | nan => false

def neg : Binary64 → Binary64
  | finite v => if v = 0 then negativeZero else finite (-v)
  | negativeZero => finite 0
  | infinite negative => infinite !negative
  | nan => nan

/-- A zero of the given sign. -/
def zero (negative : Bool) : Binary64 :=
  if negative then negativeZero else finite 0

def add (a b : Binary64) : Binary64 :=
  match a, b with
  | nan, _ | _, nan => nan
  | infinite s, infinite t => if s = t then infinite s else nan
  | infinite s, _ => infinite s
  | _, infinite t => infinite t
  | negativeZero, negativeZero => negativeZero
  | a, b => ofRat ((a.toRat?.getD 0) + (b.toRat?.getD 0))

def sub (a b : Binary64) : Binary64 :=
  add a (neg b)

def mul (a b : Binary64) : Binary64 :=
  let negative := a.isNegative != b.isNegative
  match a, b with
  | nan, _ | _, nan => nan
  | infinite _, b => if b.toRat? = some 0 then nan else infinite negative
  | a, infinite _ => if a.toRat? = some 0 then nan else infinite negative
  | a, b =>
    let product := (a.toRat?.getD 0) * (b.toRat?.getD 0)
    if product = 0 then zero negative else ofRat product

/-- Division by a value other than zero. -/
def div (a b : Binary64) : Binary64 :=
  let negative := a.isNegative != b.isNegative
  match a, b with
  | nan, _ | _, nan => nan
  | infinite _, infinite _ => nan
  | infinite _, _ => infinite negative
  | _, infinite _ => zero negative
  | a, b =>
    let quotient := (a.toRat?.getD 0) / (b.toRat?.getD 1)
    if quotient = 0 then zero negative else ofRat quotient

/-- Strictly smaller; never true of a NaN. -/
def lt (a b : Binary64) : Bool :=
  match a, b with
  | nan, _ | _, nan => false
  | infinite s, infinite t => s && !t
  | infinite s, _ => s
  | _, infinite t => !t
  | a, b => (a.toRat?.getD 0) < (b.toRat?.getD 0)

/-- Equal in value: the two zeros are, a NaN is not. -/
def beq (a b : Binary64) : Bool :=
  match a, b with
  | nan, _ | _, nan => false
  | infinite s, infinite t => s = t
  | infinite _, _ | _, infinite _ => false
  | a, b => a.toRat? = b.toRat?

def le (a b : Binary64) : Bool :=
  lt a b || beq a b

end Binary64

end FlowLint
