import FlowLint.Json.Value

/-!
# Writing structured data as text
-/

namespace FlowLint.Json

/-- One character of a string in the notation. -/
def writtenChar (c : Char) : String :=
  if c = '"' then "\\\""
  else if c = '\\' then "\\\\"
  else if c = '\n' then "\\n"
  else if c = '\r' then "\\r"
  else if c = '\t' then "\\t"
  else if c.toNat < 0x20 || c.toNat = 0x7F || c.toNat = 0x85 || c.toNat = 0x2028
      || c.toNat = 0x2029 then "\\u" ++ hexText 4 c.toNat
  else String.ofList [c]

/-- A string in the notation. -/
def writtenString (s : String) : String :=
  "\"" ++ String.join (s.toList.map writtenChar) ++ "\""

/-- A double in the notation. -/
def writtenFloat : Binary64 → String
  | .nan => "NaN"
  | .infinite negative => if negative then "-Infinity" else "Infinity"
  | x => x.text

mutual

/-- A value in the notation. -/
def write : Json → String
  | null => "null"
  | bool true => "true"
  | bool false => "false"
  | int n => integerText n
  | float x => writtenFloat x
  | string s => writtenString s
  | array items => "[" ++ writeItems items ++ "]"
  | object ms => "\x7b" ++ writeMembers ms ++ "\x7d"

/-- Items of an array. -/
def writeItems : List Json → String
  | [] => ""
  | [j] => write j
  | j :: js => write j ++ ", " ++ writeItems js

/-- Members of an object. -/
def writeMembers : List (String × Json) → String
  | [] => ""
  | [(k, j)] => writtenString k ++ ": " ++ write j
  | (k, j) :: ms => writtenString k ++ ": " ++ write j ++ ", " ++ writeMembers ms

end

end FlowLint.Json
