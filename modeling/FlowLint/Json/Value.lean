import FlowLint.Number.Decimal
import FlowLint.Text.Printable

/-!
# Structured data

Values as exchanged with the outside: exports, requests, stored fields. Integers of any size and
doubles are told apart, and an object keeps its members in order.

* `Json.text` is the plain text of a value, `Json.quoted` the form that shows what kind it is.
* `Json.truthy` says whether a value counts as given.
-/

namespace FlowLint

/-- A structured value. -/
inductive Json where
  | null
  | bool (value : Bool)
  | int (value : Int)
  | float (value : Binary64)
  | string (value : String)
  | array (items : List Json)
  | object (members : List (String × Json))
  deriving Inhabited

namespace Json

/-- The members of an object; none for other values. -/
def members : Json → List (String × Json)
  | object ms => ms
  | _ => []

/-- The value of a member. -/
def get? (j : Json) (key : String) : Option Json :=
  (j.members.find? (·.1 = key)).map Prod.snd

/-- The value of a member, or null. -/
def field (j : Json) (key : String) : Json :=
  (j.get? key).getD null

/-- Does a value count as given? Null, false, zero and anything empty do not. -/
def truthy : Json → Bool
  | null => false
  | bool b => b
  | int n => n != 0
  | float x => !x.beq (.finite 0)
  | string s => s != ""
  | array items => !items.isEmpty
  | object ms => !ms.isEmpty

/-- Hexadecimal digits of a number, padded with zeros. -/
def hexText (width n : Nat) : String :=
  let digits := Nat.toDigits 16 n
  String.ofList (List.replicate (width - digits.length) '0' ++ digits)

/-- One character inside quotes. -/
def quotedChar (quote c : Char) : String :=
  if c = quote || c = '\\' then String.ofList ['\\', c]
  else if c = '\n' then "\\n"
  else if c = '\r' then "\\r"
  else if c = '\t' then "\\t"
  else if Text.isPrintable c then String.ofList [c]
  else if c.toNat < 0x100 then "\\x" ++ hexText 2 c.toNat
  else if c.toNat < 0x10000 then "\\u" ++ hexText 4 c.toNat
  else "\\U" ++ hexText 8 c.toNat

/-- A string in quotes: single ones, unless it holds single quotes and no double ones. -/
def quotedString (s : String) : String :=
  let quote := if s.toList.contains '\'' && !s.toList.contains '"' then '"' else '\''
  String.ofList [quote] ++ String.join (s.toList.map (quotedChar quote)) ++ String.ofList [quote]

mutual

/-- The form of a value that shows what kind it is. -/
def quoted : Json → String
  | null => "None"
  | bool true => "True"
  | bool false => "False"
  | int n => integerText n
  | float x => x.text
  | string s => quotedString s
  | array items => "[" ++ quotedItems items ++ "]"
  | object ms => "\x7b" ++ quotedMembers ms ++ "\x7d"

/-- Items of a list in quoted form. -/
def quotedItems : List Json → String
  | [] => ""
  | [j] => quoted j
  | j :: js => quoted j ++ ", " ++ quotedItems js

/-- Members of an object in quoted form. -/
def quotedMembers : List (String × Json) → String
  | [] => ""
  | [(k, j)] => quotedString k ++ ": " ++ quoted j
  | (k, j) :: ms => quotedString k ++ ": " ++ quoted j ++ ", " ++ quotedMembers ms

end

/-- The plain text of a value: a string is its own text. -/
def text : Json → String
  | string s => s
  | j => j.quoted

end Json

end FlowLint
