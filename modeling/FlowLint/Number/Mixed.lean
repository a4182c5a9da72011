import FlowLint.Json.Convert
import FlowLint.Number.Arithmetic

/-!
# Integers and doubles in one

A number is an exact integer or a double. Integers stay exact under sums and products; a double
operand turns the other one into a double, and so does a quotient. An integer beyond all doubles
cannot be turned into one.
-/

namespace FlowLint

/-- An integer or a double. -/
inductive Number where
  | int (value : Int)
  | float (value : Binary64)
  deriving Repr, DecidableEq, Inhabited

namespace Number

/-- A number as a double. -/
def toBinary64 : Number → Except Fault Binary64
  | int n => Binary64.ofInt n
  | float x => .ok x

/-- An operation on integers or, failing that, on doubles. -/
def combine (onInts : Int → Int → Int) (onDoubles : Binary64 → Binary64 → Binary64) :
    Number → Number → Except Fault Number
  | int a, int b => .ok (int (onInts a b))
  | a, b => do return float (onDoubles (← a.toBinary64) (← b.toBinary64))

/-- The double nearest to a quotient of integers. -/
def quotient (a b : Int) : Except Fault Binary64 :=
  if b = 0 then .error .divisionByZero
  else if a = 0 then .ok (.zero (b < 0))
  else
    match Binary64.ofRat ((a : Rat) / (b : Rat)) with
    | .infinite _ => .error .unbounded
    | x => .ok x

/-- A quotient of two numbers, which is always a double. -/
def divide : Number → Number → Except Fault Number
  | int a, int b => float <$> quotient a b
  | a, b => do
    let x ← a.toBinary64
    let y ← b.toBinary64
    if y.beq (.finite 0) then throw .divisionByZero
    return float (x.div y)

/-- The exact value of a finite number. -/
def toRat? : Number → Option Rat
  | int n => some n
  | float x => x.toRat?

/-- Strictly smaller, by exact value. -/
def lt (a b : Number) : Bool :=
  match a, b with
  | float x, float y => x.lt y
  | _, float (.infinite negative) => !negative
  | float (.infinite negative), _ => negative
  | a, b =>
    match a.toRat?, b.toRat? with
    | some p, some q => p < q
    | _, _ => false

/-- Smaller or equal, by exact value. -/
def le (a b : Number) : Bool :=
  match a, b with
  | float x, float y => x.le y
  | _, float (.infinite negative) => !negative
  | float (.infinite negative), _ => negative
  | a, b =>
    match a.toRat?, b.toRat? with
    | some p, some q => p ≤ q
    | _, _ => false

/-- The greatest integer that is not larger. -/
def floor : Number → Except Fault Int
  | int n => .ok n
  | float (.finite v) => .ok v.floor
  | float .negativeZero => .ok 0
  | float (.infinite _) => .error .unbounded
  | float .nan => .error .notANumber

instance : Numeral Number where
  whole := int
  decimal q := float (.ofRat q)
  powerOfTen e := if 0 ≤ e then int (Int.pow 10 e.toNat) else float (.ofRat (tenPow e))
  lt := lt
  le := le

instance : Arithmetic (Except Fault) Number where
  plus := combine (· + ·) .add
  minus := combine (· - ·) .sub
  times := combine (· * ·) .mul
  dividedBy := divide
  floor := floor

/-- A number as a structured value. -/
def toJson : Number → Json
  | int n => .int n
  | float x => .float x

/-- The number that a structured value is. -/
def ofJson : Json → Except Fault Number
  | .bool b => .ok (int (if b then 1 else 0))
  | .int n => .ok (int n)
  | .float x => .ok (float x)
  | _ => .error .wrongType

/-- Text with a fixed number of decimal places. -/
def fixed (places : Nat) : Number → String
  | int n => (Binary64.ofRat n).fixed places
  | float x => x.fixed places

end Number

end FlowLint
