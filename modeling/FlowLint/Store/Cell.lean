import FlowLint.Json.Convert

/-!
# Stored values

What a column of a table holds, and how a value becomes that. A column has an affinity: it turns
values into its own kind where nothing is lost, and keeps others as they are.

* `Cell.ofJson` says which values can be stored at all.
* `Affinity.apply` turns a value into the kind of its column.
-/

namespace FlowLint

/-- A value in a table; a missing one is `none` of `Option Cell`. -/
inductive Cell where
  | int (value : Int)
  | real (value : Binary64)
  | text (value : String)
  deriving Repr, DecidableEq, Inhabited

/-- Why a storage operation failed. -/
inductive StoreError where
  /-- The store was closed before. -/
  | closed
  /-- The file cannot be opened. -/
  | cannotOpen (path : String)
  /-- The file is something else. -/
  | notAStore (path : String)
  /-- A value of a kind that cannot be stored, with its place among the parameters. -/
  | unsupported (position : Nat) (kind : String)
  /-- A column that must be given. -/
  | missing (column : String)
  /-- A flag that is neither zero nor one. -/
  | notAFlag
  /-- A limit that is not a whole number. -/
  | mismatch
  /-- A value that cannot be used. -/
  | value (fault : Fault)
  deriving Repr, DecidableEq, Inhabited

/-- What to tell about a failure. -/
def StoreError.message : StoreError → String
  | closed => "Cannot operate on a closed database."
  | cannotOpen path =>
    "Failed to initialize metrics database at " ++ path ++ ": unable to open database file"
  | notAStore path =>
    "Failed to initialize metrics database at " ++ path ++ ": file is not a database"
  | unsupported position kind =>
    "Error binding parameter " ++ digitsText position ++ ": type '" ++ kind
      ++ "' is not supported"
  | missing column => "NOT NULL constraint failed: " ++ column
  | notAFlag => "CHECK constraint failed: has_critical_issue IN (0, 1)"
  | mismatch => "datatype mismatch"
  | value fault => fault.message

namespace Cell

/-- A stored value as a structured one. -/
def toJson : Cell → Json
  | int n => .int n
  | real x => .float x
  | text s => .string s

/-- Can an integer be stored in 64 bits? -/
def fits (n : Int) : Bool :=
  -wordBound ≤ n && n < wordBound

/-- The stored form of a value that is given as a parameter; null and what is not a number are
missing. -/
def ofJson (position : Nat) : Json → Except StoreError (Option Cell)
  | .null => .ok none
  | .bool b => .ok (some (int (if b then 1 else 0)))
  | .int n => if fits n then .ok (some (int n)) else .error (.value .unbounded)
  | .float .nan => .ok none
  | .float x => .ok (some (real x))
  | .string s => .ok (some (text s))
  | .array _ => .error (.unsupported position "list")
  | .object _ => .error (.unsupported position "dict")

/-! ## Numbers in texts -/

/-- A blank that may stand around a number. -/
def isMargin (c : Char) : Bool :=
  c = ' ' || (9 ≤ c.toNat && c.toNat ≤ 13)

/-- Is a text a number, with ASCII digits and blanks around? -/
def looksNumeric (s : String) : Bool :=
  s.toList.all fun c => c.isDigit || isMargin c || "+-.eE".toList.contains c

/-- The number that a text stands for. -/
def ofNumericText? (s : String) : Option Cell :=
  if !looksNumeric s then none
  else
    let core := ((s.toList.dropWhile isMargin).reverse.dropWhile isMargin).reverse
    match Reading.integer? 10 core with
    | some n => if fits n then some (int n) else some (real (.ofRat n))
    | none => (Reading.binary64? core).map real

/-- A real number without a fraction as an integer, if it fits. -/
def integral : Cell → Cell
  | real (.finite v) =>
    if v.den = 1 && -wordBound < v.num && v.num < wordBound - 1 then int v.num
    else real (.finite v)
  | real .negativeZero => int 0
  | c => c

/-- A number where the value is one, and an integer where the number is one. -/
def numeric : Cell → Cell
  | text s =>
    match ofNumericText? s with
    | some c => c.integral
    | none => text s
  | c => c.integral

/-! ## Texts of numbers -/

/-- The digits and the decimal exponent of a positive number at fifteen places. -/
def fifteenDigits (v : Rat) : Nat × Int :=
  let exponent := decimalExponent v
  let digits := (roundHalfEven (v * tenPow (14 - exponent))).toNat
  if digits = Nat.pow 10 15 then (Nat.pow 10 14, exponent + 1) else (digits, exponent)

/-- The text of a positive number: positional for exponents from -4 to 14. -/
def positiveText (v : Rat) : String :=
  let (digits, exponent) := fifteenDigits v
  let significant := digitsText (dropZeros 15 digits).1
  if -4 ≤ exponent && exponent ≤ 14 then layOut digits (exponent - 14)
  else
    let fraction := String.ofList (significant.toList.drop 1)
    let size := digitsText exponent.natAbs
    String.ofList (significant.toList.take 1) ++ "." ++ (if fraction = "" then "0" else fraction)
      ++ (if exponent < 0 then "e-" else "e+") ++ (if size.length < 2 then "0" ++ size else size)

/-- The text of a real number; zero has no sign. -/
def realText : Binary64 → String
  | .nan => ""
  | .infinite negative => if negative then "-Inf" else "Inf"
  | .negativeZero => "0.0"
  | .finite v =>
    if v = 0 then "0.0" else if v < 0 then "-" ++ positiveText (-v) else positiveText v

end Cell

/-- The kind of values that a column prefers. -/
inductive Affinity where
  | text | integer | real
  deriving Repr, DecidableEq, Inhabited

/-- A value as a column keeps it. -/
def Affinity.apply : Affinity → Cell → Cell
  | text, .int n => .text (integerText n)
  | text, .real x => .text (Cell.realText x)
  | text, .text s => .text s
  | integer, c => c.numeric
  | real, c =>
    match c.numeric with
    | .int n => .real (.ofRat n)
    | c => c

end FlowLint
