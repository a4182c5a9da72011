import FlowLint.Number.Binary64

/-!
# Decimal text of numbers

`shortest` finds the fewest decimal digits that read back as the same double, and of those the
ones nearest to it. `Binary64.text` lays them out: positional for moderate exponents, scientific
otherwise. `fixed` writes a fixed number of decimal places, a half going to the even neighbour.
-/

namespace FlowLint

/-- The number of decimal digits of a natural number; 1 for zero. -/
def digitCount (n : Nat) : Nat :=
  (Nat.toDigits 10 n).length

/-- The largest `e` with `10 ^ e ≤ q`, for a positive `q`. -/
def decimalExponent (q : Rat) : Int :=
  if 1 ≤ q then (digitCount q.floor.toNat : Int) - 1
  else -(digitCount ((1 / q).ceil.toNat - 1) : Int)

/-- The digits of a positive double to a number of places, if that many tell it apart. The result
is an integer and the power of ten it counts. -/
def digitsAt (v : Rat) (places : Nat) : Option (Nat × Int) :=
  let power := decimalExponent v - places + 1
  let scaled := v / tenPow power
  let low := scaled.floor.toNat
  let readsBack (n : Nat) : Bool := Binary64.ofRat ((n : Rat) * tenPow power) == .finite v
  match readsBack low, readsBack (low + 1) with
  | true, true =>
    let rest := scaled - (low : Rat)
    if rest < 1 / 2 || (rest = 1 / 2 && low % 2 = 0) then some (low, power)
    else some (low + 1, power)
  | true, false => some (low, power)
  | false, true => some (low + 1, power)
  | false, false => none

/-- Try ever more places. Seventeen always suffice. -/
def shortestFrom (v : Rat) : Nat → Nat → Nat × Int
  | 0, places => ((v / tenPow (decimalExponent v - places + 1)).floor.toNat,
      decimalExponent v - places + 1)
  | more + 1, places =>
    match digitsAt v places with
    | some found => found
    | none => shortestFrom v more (places + 1)

/-- The fewest digits that read back as the positive double `v`. -/
def shortest (v : Rat) : Nat × Int :=
  shortestFrom v 17 1

/-- Digits of a natural number as text. -/
def digitsText (n : Nat) : String :=
  String.ofList (Nat.toDigits 10 n)

/-- Decimal text of an integer. -/
def integerText (n : Int) : String :=
  if n < 0 then "-" ++ digitsText n.natAbs else digitsText n.natAbs

/-- Without its last zeros, and how many there were; `fuel` bounds them. -/
def dropZeros : Nat → Nat → Nat × Nat
  | 0, n => (n, 0)
  | fuel + 1, n =>
    if n != 0 && n % 10 = 0 then
      let (m, k) := dropZeros fuel (n / 10)
      (m, k + 1)
    else (n, 0)

/-- Lay out a positive decimal `digits * 10 ^ power`. Exponents from -4 to 15 are written
positionally, with at least one decimal place; others with a mark, a sign and two digits. -/
def layOut (digits : Nat) (power : Int) : String :=
  let (digits, zeros) := dropZeros 400 digits
  let power := power + zeros
  let text := digitsText digits
  let exponent := power + (text.length : Int) - 1
  if -4 ≤ exponent && exponent < 16 then
    if 0 ≤ power then text ++ String.ofList (List.replicate power.toNat '0') ++ ".0"
    else
      let places := (-power).toNat
      if places < text.length then
        String.ofList (text.toList.take (text.length - places)) ++ "."
          ++ String.ofList (text.toList.drop (text.length - places))
      else "0." ++ String.ofList (List.replicate (places - text.length) '0') ++ text
  else
    let mantissa :=
      if text.length = 1 then text
      else String.ofList (text.toList.take 1) ++ "." ++ String.ofList (text.toList.drop 1)
    let size := digitsText exponent.natAbs
    mantissa ++ (if exponent < 0 then "e-" else "e+")
      ++ (if size.length < 2 then "0" ++ size else size)

/-- The shortest text that reads back as the same double. -/
def Binary64.text : Binary64 → String
  | .nan => "nan"
  | .infinite negative => if negative then "-inf" else "inf"
  | .negativeZero => "-0.0"
  | .finite v =>
    if v = 0 then "0.0"
    else
      let (digits, power) := shortest (if v < 0 then -v else v)
      (if v < 0 then "-" else "") ++ layOut digits power

/-- Text with a fixed number of decimal places. -/
def Binary64.fixed (x : Binary64) (places : Nat) : String :=
  match x.toRat? with
  | none => x.text
  | some v =>
    let size := if v < 0 then -v else v
    let scaled := (roundHalfEven (size * tenPow places)).toNat
    let whole := scaled / Nat.pow 10 places
    let part := digitsText (scaled % Nat.pow 10 places)
    let padded := String.ofList (List.replicate (places - part.length) '0') ++ part
    (if x.isNegative then "-" else "") ++ digitsText whole
      ++ (if places = 0 then "" else "." ++ padded)

end FlowLint
