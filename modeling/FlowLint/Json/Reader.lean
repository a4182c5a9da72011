import FlowLint.Json.Value
import FlowLint.Number.Reading

/-!
# Reading structured data from text

`Json.read` reads a whole text. An error gives the index of the character where reading stopped.
Of two members with the same name the later value counts, in the place of the first.
-/

namespace FlowLint.Json

/-- What is left of the text, and the index of its first character. -/
structure Input where
  rest : List Char
  index : Nat := 0

/-- Reading part of a text, or the index of an error. -/
abbrev Step (α : Type) := Except Nat (α × Input)

/-- The input after a number of characters. -/
def Input.drop (i : Input) (n : Nat) : Input :=
  ⟨i.rest.drop n, i.index + n⟩

/-- The input after blanks. -/
def Input.skip (i : Input) : Input :=
  i.drop (i.rest.takeWhile fun c => c = ' ' || c = '\t' || c = '\n' || c = '\r').length

/-- The value of exactly four hexadecimal digits, which must not end the text. -/
def fourHex? (cs : List Char) : Option Nat :=
  if (cs.drop 4).isEmpty || !(cs.take 4).all Text.isHexDigit then none
  else some (Reading.ofDigits 16 ((cs.take 4).filterMap (Text.radixValue? 16)))

/-- The character that a letter after a backslash stands for. -/
def shortEscape? : Char → Option Char
  | '"' => some '"'
  | '\\' => some '\\'
  | '/' => some '/'
  | 'b' => some '\x08'
  | 'f' => some '\x0c'
  | 'n' => some '\n'
  | 'r' => some '\r'
  | 't' => some '\t'
  | _ => none

/-- An escape after `\u`: its character and length. Two halves of a pair are joined. -/
def unicodeEscape? (cs : List Char) : Option (Char × Nat) := do
  let high ← fourHex? cs
  if 0xD800 ≤ high && high < 0xDC00 then
    match cs.drop 4 with
    | '\\' :: 'u' :: more =>
      match fourHex? more with
      | some low =>
        if 0xDC00 ≤ low && low < 0xE000 then
          return (Char.ofNat (0x10000 + (high - 0xD800) * 0x400 + (low - 0xDC00)), 10)
        else return ('\uFFFD', 4)
      | none => return ('\uFFFD', 4)
    | _ => return ('\uFFFD', 4)
  else if 0xDC00 ≤ high && high < 0xE000 then
    return ('\uFFFD', 4)
  else
    return (Char.ofNat high, 4)

/-- The rest of a string after its opening quote, which stands at index `opened`. -/
def stringRest (opened : Nat) : Nat → List Char → Input → Step String
  | 0, _, _ => .error opened
  | fuel + 1, seen, i =>
    match i.rest with
    | [] => .error opened
    | '"' :: _ => .ok (String.ofList seen.reverse, i.drop 1)
    | '\\' :: 'u' :: cs =>
      match unicodeEscape? cs with
      | some (c, n) => stringRest opened fuel (c :: seen) (i.drop (n + 2))
      | none => .error (i.index + 1)
    | '\\' :: c :: _ =>
      match shortEscape? c with
      | some e => stringRest opened fuel (e :: seen) (i.drop 2)
      | none => .error i.index
    | ['\\'] => .error opened
    | c :: _ =>
      if c.toNat < 0x20 then .error i.index else stringRest opened fuel (c :: seen) (i.drop 1)

/-- A string from its opening quote on. -/
def stringAt (i : Input) : Step String :=
  stringRest i.index (i.rest.length + 1) [] (i.drop 1)

/-- Length of a number, and whether it is written as an integer. -/
def numberAt? (cs : List Char) : Option (Nat × Bool) :=
  let sign := if cs.head? == some '-' then 1 else 0
  let digits := ((cs.drop sign).takeWhile Char.isDigit).length
  if digits = 0 then none
  else
    let whole := sign + if (cs.drop sign).head? == some '0' then 1 else digits
    let fraction := match cs.drop whole with
      | '.' :: more =>
        let n := (more.takeWhile Char.isDigit).length
        if n = 0 then 0 else n + 1
      | _ => 0
    let exponent := match cs.drop (whole + fraction) with
      | e :: more =>
        if e = 'e' || e = 'E' then
          let s := if more.head? == some '-' || more.head? == some '+' then 1 else 0
          let n := ((more.drop s).takeWhile Char.isDigit).length
          if n = 0 then 0 else 1 + s + n
        else 0
      | [] => 0
    some (whole + fraction + exponent, fraction + exponent = 0)

/-- A number or a word of the notation. -/
def atomAt (i : Input) : Step Json :=
  let words : List (String × Json) :=
    [("null", .null), ("true", .bool true), ("false", .bool false), ("NaN", .float .nan),
      ("Infinity", .float (.infinite false)), ("-Infinity", .float (.infinite true))]
  match words.find? fun w => w.1.toList.isPrefixOf i.rest with
  | some (w, j) => .ok (j, i.drop w.length)
  | none =>
    match numberAt? i.rest with
    | none => .error i.index
    | some (n, whole) =>
      let text := i.rest.take n
      let value :=
        if whole then
          let (negative, digits) := Reading.sign text
          let size := Reading.ofDigits 10 (digits.filterMap Text.decimalValue?)
          Json.int (if negative then -(size : Int) else size)
        else Json.float ((Reading.binary64? text).getD .nan)
      .ok (value, i.drop n)

/-- Members with a new one. A name that is there already keeps its place. -/
def insertMember (ms : List (String × Json)) (key : String) (value : Json) :
    List (String × Json) :=
  if ms.any (·.1 = key) then ms.map fun m => if m.1 = key then (key, value) else m
  else ms ++ [(key, value)]

mutual

/-- A value at the current character. -/
def valueAt : Nat → Input → Step Json
  | 0, i => .error i.index
  | fuel + 1, i =>
    match i.rest with
    | '"' :: _ =>
      match stringAt i with
      | .ok (s, i) => .ok (.string s, i)
      | .error e => .error e
    | '{' :: _ =>
      let i := (i.drop 1).skip
      match i.rest with
      | '}' :: _ => .ok (.object [], i.drop 1)
      | _ => membersAt fuel [] i
    | '[' :: _ =>
      let i := (i.drop 1).skip
      match i.rest with
      | ']' :: _ => .ok (.array [], i.drop 1)
      | _ => itemsAt fuel [] i
    | _ => atomAt i

/-- The rest of an object from the name of a member on. -/
def membersAt : Nat → List (String × Json) → Input → Step Json
  | 0, _, i => .error i.index
  | fuel + 1, seen, i =>
    match i.rest with
    | '"' :: _ =>
      match stringAt i with
      | .error e => .error e
      | .ok (key, i) =>
        let i := i.skip
        match i.rest with
        | ':' :: _ =>
          match valueAt fuel (i.drop 1).skip with
          | .error e => .error e
          | .ok (value, i) =>
            let i := i.skip
            let seen := insertMember seen key value
            match i.rest with
            | '}' :: _ => .ok (.object seen, i.drop 1)
            | ',' :: _ => membersAt fuel seen (i.drop 1).skip
            | _ => .error i.index
        | _ => .error i.index
    | _ => .error i.index

/-- The rest of an array from an item on. -/
def itemsAt : Nat → List Json → Input → Step Json
  | 0, _, i => .error i.index
  | fuel + 1, seen, i =>
    match valueAt fuel i with
    | .error e => .error e
    | .ok (value, i) =>
      let i := i.skip
      match i.rest with
      | ']' :: _ => .ok (.array (value :: seen).reverse, i.drop 1)
      | ',' :: _ => itemsAt fuel (value :: seen) (i.drop 1).skip
      | _ => .error i.index

end

/-- The value that a whole text stands for, or the index where reading stopped. -/
def read (text : String) : Except Nat Json :=
  let i : Input := { rest := text.toList }
  match valueAt (i.rest.length + 1) i.skip with
  | .error e => .error e
  | .ok (value, i) => if i.skip.rest.isEmpty then .ok value else .error i.skip.index

end FlowLint.Json
