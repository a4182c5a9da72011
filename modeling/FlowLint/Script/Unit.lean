import FlowLint.Script.Convert

/-!
# Units of code

A unit is the code of one function node. It may return at top level, which a plain script must
not: such a unit is read again inside a wrapper function, and its lines are moved back by one.

How a text is read is left open. A `SyntaxReader` is any function from texts to concrete syntax;
what is said about units is said for all of them.
-/

namespace FlowLint.Script

/-- Why a text is not a script that can be analysed. -/
inductive ReadError where
  /-- The text does not follow the grammar. -/
  | malformed
  /-- Its constructs nest too deeply to be followed. -/
  | tooDeep
  deriving Repr, DecidableEq

/-- A reader of concrete syntax. -/
abbrev SyntaxReader := List Char → Except ReadError Concrete

/-- Why a unit has no tree. -/
inductive BuildError where
  /-- The text cannot be read. -/
  | unreadable (cause : ReadError)
  /-- A return outside of any function. -/
  | illegalReturn (line : Int)
  /-- A literal without a value. -/
  | literal (cause : LiteralError)
  deriving Repr, DecidableEq

/-- What to tell about an illegal return. -/
def illegalReturnMessage (line : Int) : String :=
  s!"Illegal return statement outside of a function (line {line})"

/-- A tree and the shift that was applied to its lines. -/
structure ParsedUnit where
  program : Node
  lineOffset : Int := 0

/-- Was the unit read inside a wrapper function? -/
def ParsedUnit.wrapped (u : ParsedUnit) : Bool :=
  u.lineOffset != 0

/-- The tree of a text, with its lines moved. -/
def parseWith (reader : SyntaxReader) (text : List Char) (shift : Int) (wrapper : Option String) :
    Except BuildError Node :=
  match reader text with
  | .error e => .error (.unreadable e)
  | .ok tree =>
    match convert { lines := (splitLines text).toArray, shift, wrapper } .value false tree with
    | .error e => .error (.literal e)
    | .ok program => .ok program

/-- The tree of a script, in which no return may stand outside of a function. -/
def parseScriptWith (reader : SyntaxReader) (text : List Char) : Except BuildError Node := do
  let program ← parseWith reader text 0 none
  match illegalReturn? program with
  | some found => .error (.illegalReturn (if found.line = 0 then 1 else found.line))
  | none => .ok program

/-- A text inside a function of the given name. -/
def wrap (name : String) (text : List Char) : List Char :=
  "function ".toList ++ name.toList ++ "() \x7b\n".toList ++ text ++ "\n\x7d".toList

/-- The tree of a unit, inside a wrapper function if it returns at top level. -/
def buildWith (reader : SyntaxReader) (wrapper : String) (text : List Char) :
    Except BuildError ParsedUnit :=
  match parseScriptWith reader text with
  | .ok program => .ok { program }
  | .error (.illegalReturn _) => do
    return { program := ← parseWith reader (wrap wrapper text) (-1) (some wrapper),
             lineOffset := -1 }
  | .error e => .error e

/-- The name of the wrapper function unless another one is asked for. -/
def defaultWrapper : String := "nodeRedWrapper"

end FlowLint.Script
