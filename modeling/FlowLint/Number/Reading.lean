import FlowLint.Number.Binary64
import FlowLint.Text.Class
import FlowLint.Text.Digit

/-!
# Reading numbers from text

Integers and decimals as people write them: blanks around, a sign, digits of any script and
single underscores between digits.
-/

namespace FlowLint.Reading

/-- A blank that may stand around a number. Unlike in lines, the separators 28 to 31 do not
count. -/
def isMargin (c : Char) : Bool :=
  Text.isBlank c && !(0x1C ≤ c.toNat && c.toNat ≤ 0x1F)

/-- A text without the blanks around it. -/
def strip (cs : List Char) : List Char :=
  ((cs.dropWhile isMargin).reverse.dropWhile isMargin).reverse

/-- A sign, if any, and what follows it. -/
def sign : List Char → Bool × List Char
  | '-' :: cs => (true, cs)
  | '+' :: cs => (false, cs)
  | cs => (false, cs)

/-- The values of digits in which single underscores may separate two digits. -/
def digitValues (radix : Nat) : List Char → Option (List Nat)
  | [] => none
  | [c] => (Text.radixValue? radix c).map ([·])
  | c :: '_' :: d :: cs => do
    let v ← Text.radixValue? radix c
    return v :: (← digitValues radix (d :: cs))
  | c :: d :: cs => do
    let v ← Text.radixValue? radix c
    return v :: (← digitValues radix (d :: cs))

/-- The number that digits stand for. -/
def ofDigits (radix : Nat) (values : List Nat) : Nat :=
  values.foldl (fun n v => n * radix + v) 0

/-- How many digits a decimal integer may have. -/
def digitLimit : Nat := 4300

/-- An integer in a radix. A radix that is not a power of two limits the number of digits. -/
def integer? (radix : Nat) (text : List Char) : Option Int := do
  let (negative, digits) := sign (strip text)
  let values ← digitValues radix digits
  if radix = 10 && digitLimit < values.length then none
  let n := ofDigits radix values
  return if negative then -(n : Int) else n

/-- A decimal: the value of its digits and the power of ten they count. -/
structure Decimal where
  negative : Bool
  digits : Nat
  power : Int

/-- The digits up to the first character that is neither a digit nor an underscore. -/
def digitRun (cs : List Char) : List Char × List Char :=
  let run := cs.takeWhile fun c => c = '_' || (Text.decimalValue? c).isSome
  (run, cs.drop run.length)

/-- Digits that may be missing; `none` if underscores are misplaced. -/
def optionalDigits (cs : List Char) : Option (List Nat) :=
  if cs.isEmpty then some [] else digitValues 10 cs

/-- A finite decimal: digits, an optional fraction and an optional exponent. -/
def decimal? (text : List Char) : Option Decimal := do
  let (negative, cs) := sign (strip text)
  let (whole, cs) := digitRun cs
  let (fraction, cs) := match cs with
    | '.' :: rest => digitRun rest
    | _ => ([], cs)
  let whole ← optionalDigits whole
  let fraction ← optionalDigits fraction
  if whole.isEmpty && fraction.isEmpty then none
  let exponent : Int ← match cs with
    | [] => some 0
    | e :: rest =>
      if e = 'e' || e = 'E' then do
        let (below, digits) := sign rest
        let size := ofDigits 10 (← digitValues 10 digits)
        some (if below then -(size : Int) else size)
      else none
  return ⟨negative, ofDigits 10 (whole ++ fraction), exponent - fraction.length⟩

/-- The double nearest to a decimal. Exponents beyond the range of doubles are cut short. -/
def Decimal.toBinary64 (d : Decimal) : Binary64 :=
  let size : Int := ((Nat.toDigits 10 d.digits).length : Int) + d.power
  if d.digits = 0 || size < -400 then .zero d.negative
  else if 400 < size then .infinite d.negative
  else
    let q := (d.digits : Rat) * tenPow d.power
    .ofRat (if d.negative then -q else q)

/-- A word for an infinite or undefined number. -/
def special? (text : List Char) : Option Binary64 :=
  let (negative, cs) := sign (strip text)
  let word := String.ofList (cs.map Char.toLower)
  if word = "inf" || word = "infinity" then some (.infinite negative)
  else if word = "nan" then some .nan
  else none

/-- A double from its text. -/
def binary64? (text : List Char) : Option Binary64 :=
  match special? text with
  | some x => some x
  | none => (decimal? text).map Decimal.toBinary64

end FlowLint.Reading
