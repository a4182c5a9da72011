import FlowLint.Json.Convert

/-!
# Checking the shape of requests

A shape says which values it takes and what they mean. Values are taken generously: a text or a
number without a fraction is taken for an integer, a word for a truth value. All problems of a
value are found at once, in the order of its fields.

* `Checked` collects problems: two parts that are both wrong give the problems of both.
-/

namespace FlowLint

/-- What is wrong with a value. -/
inductive Problem where
  | missing
  | stringType
  | intType | intParsing | intParsingSize | intFromFloat | finiteNumber
  | floatType | floatParsing
  | boolType | boolParsing
  | greaterThanEqual | lessThanEqual
  | listType | dictType | modelAttributesType
  | jsonInvalid
  deriving Repr, DecidableEq, Inhabited

/-- The name of a problem. -/
def Problem.name : Problem → String
  | missing => "missing"
  | stringType => "string_type"
  | intType => "int_type"
  | intParsing => "int_parsing"
  | intParsingSize => "int_parsing_size"
  | intFromFloat => "int_from_float"
  | finiteNumber => "finite_number"
  | floatType => "float_type"
  | floatParsing => "float_parsing"
  | boolType => "bool_type"
  | boolParsing => "bool_parsing"
  | greaterThanEqual => "greater_than_equal"
  | lessThanEqual => "less_than_equal"
  | listType => "list_type"
  | dictType => "dict_type"
  | modelAttributesType => "model_attributes_type"
  | jsonInvalid => "json_invalid"

/-- A step on the way to a value. -/
inductive Place where
  | key (name : String)
  | index (number : Nat)
  deriving Repr, DecidableEq, Inhabited

/-- A problem and where it is. -/
structure Invalid where
  problem : Problem
  place : List Place := []
  deriving Repr, DecidableEq, Inhabited

/-- A step as a structured value. -/
def Place.toJson : Place → Json
  | key name => .string name
  | index number => .int number

/-- A problem as an object. -/
def Invalid.toJson (i : Invalid) : Json :=
  .object [("type", .string i.problem.name), ("loc", .array (i.place.map Place.toJson))]

/-- A value of the right shape, or all its problems. -/
inductive Checked (α : Type) where
  | valid (value : α)
  | invalid (problems : List Invalid)

namespace Checked

variable {α β : Type}

/-- A single problem with the value itself. -/
def fail (problem : Problem) : Checked α :=
  invalid [{ problem }]

/-- The same problems, one step further down. -/
def under (place : Place) : Checked α → Checked α
  | valid a => valid a
  | invalid ps => invalid (ps.map fun p => { p with place := place :: p.place })

def map (f : α → β) : Checked α → Checked β
  | valid a => valid (f a)
  | invalid ps => invalid ps

/-- Apply a function to an argument; the problems of both are kept. -/
def apply : Checked (α → β) → Checked α → Checked β
  | valid f, valid a => valid (f a)
  | valid _, invalid ps => invalid ps
  | invalid ps, valid _ => invalid ps
  | invalid ps, invalid qs => invalid (ps ++ qs)

instance : Applicative Checked where
  pure := valid
  map := map
  seq f x := apply f (x ())

/-- A further condition on a value of the right shape. -/
def ensure (p : α → Bool) (problem : Problem) : Checked α → Checked α
  | valid a => if p a then valid a else fail problem
  | invalid ps => invalid ps

end Checked

/-- Which values a shape takes, and what they mean. -/
abbrev Shape (α : Type) := Json → Checked α

namespace Shape

variable {α : Type}

def string : Shape String
  | .string s => .valid s
  | _ => .fail .stringType

/-! ## Numbers and truth values -/

/-- Decimal places that are all zero are dropped. -/
def withoutZeroPlaces (cs : List Char) : List Char :=
  let whole := cs.takeWhile (· != '.')
  if whole.length < cs.length && (cs.drop (whole.length + 1)).all (· = '0') then whole else cs

/-- Is a text made of ASCII digits with single underscores between them, after an optional
sign? -/
def isDigits (cs : List Char) : Bool :=
  cs.all fun c => c.isDigit || c = '_' || c = '+' || c = '-'

/-- The integer of a text. -/
def integerText? (s : String) : Option Int :=
  let core := withoutZeroPlaces (Reading.strip s.toList)
  if isDigits core then Reading.integer? 10 core else none

/-- The integer of a double without a fraction that fits 64 bits. -/
def integerOfDouble : Binary64 → Checked Int
  | .nan | .infinite _ => .fail .finiteNumber
  | .negativeZero => .valid 0
  | .finite v =>
    if v.den != 1 then .fail .intFromFloat
    else if v.num < -wordBound || wordBound < v.num then .fail .intParsingSize
    else .valid v.num

def integer : Shape Int
  | .int n => .valid n
  | .bool b => .valid (if b then 1 else 0)
  | .float x => integerOfDouble x
  | .string s =>
    match integerText? s with
    | some n => .valid n
    | none => .fail .intParsing
  | .null | .array _ | .object _ => .fail .intType

/-- The double of a text with ASCII digits. -/
def doubleText? (s : String) : Option Binary64 :=
  let core := Reading.strip s.toList
  if core.all (·.toNat < 0x80) then Reading.binary64? core else none

def double : Shape Binary64
  | .float x => .valid x
  | .bool b => .valid (.finite (if b then 1 else 0))
  | .int n =>
    match Binary64.ofInt n with
    | .ok x => .valid x
    | .error _ => .fail .floatType
  | .string s =>
    match doubleText? s with
    | some x => .valid x
    | none => .fail .floatParsing
  | .null | .array _ | .object _ => .fail .floatType

/-- The truth value of a word, in any case of letters. -/
def truthWord? (s : String) : Option Bool :=
  let word := String.ofList (s.toList.map Char.toLower)
  if ["1", "t", "y", "on", "yes", "true"].contains word then some true
  else if ["0", "f", "n", "no", "off", "false"].contains word then some false
  else none

/-- The truth value of a number: one or zero. -/
def truthNumber (n : Int) : Checked Bool :=
  if n = 1 then .valid true else if n = 0 then .valid false else .fail .boolParsing

def truth : Shape Bool
  | .bool b => .valid b
  | .string s =>
    match truthWord? s with
    | some b => .valid b
    | none => .fail .boolParsing
  | .int n =>
    if -wordBound ≤ n && n < wordBound then truthNumber n else .fail .boolType
  | .float x =>
    match integerOfDouble x with
    | .valid n => truthNumber n
    | .invalid _ => .fail .boolType
  | .null | .array _ | .object _ => .fail .boolType

/-! ## Larger shapes -/

/-- A value or null. -/
def nullable (shape : Shape α) : Shape (Option α)
  | .null => .valid none
  | j => some <$> shape j

/-- The items of a list, numbered from `first`. -/
def itemsFrom (shape : Shape α) (first : Nat) : List Json → Checked (List α)
  | [] => .valid []
  | j :: js =>
    List.cons <$> (shape j).under (.index first) <*> itemsFrom shape (first + 1) js

def list (shape : Shape α) : Shape (List α)
  | .array items => itemsFrom shape 0 items
  | _ => .fail .listType

/-- An object of any content. -/
def anyObject : Shape Json
  | .object ms => .valid (.object ms)
  | _ => .fail .dictType

/-- A field that must be given. -/
def required (key : String) (shape : Shape α) : Shape α := fun j =>
  match j.get? key with
  | some v => (shape v).under (.key key)
  | none => (Checked.fail .missing).under (.key key)

/-- A field with a default. -/
def optional (key : String) (shape : Shape α) (fallback : α) : Shape α := fun j =>
  match j.get? key with
  | some v => (shape v).under (.key key)
  | none => .valid fallback

/-- An object with fields. -/
def object (fields : Shape α) : Shape α
  | .object ms => fields (.object ms)
  | _ => .fail .modelAttributesType

/-- A number that is not negative. -/
def naturalInteger : Shape Int := fun j =>
  (integer j).ensure (0 ≤ ·) .greaterThanEqual

/-- A double that is not negative. -/
def naturalDouble : Shape Binary64 := fun j =>
  (double j).ensure (fun x => !x.lt (.finite 0)) .greaterThanEqual

end Shape

end FlowLint
