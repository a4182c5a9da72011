/-!
# What can be wrong with a value
-/

namespace FlowLint

/-- Why a value cannot be used. -/
inductive Fault where
  /-- A member that must be given is not. -/
  | missing (key : String)
  /-- The value is of a kind that the operation does not take. -/
  | wrongType
  /-- The value should be an object. -/
  | notAnObject
  /-- A text that is not a number, or a number that stands for none. -/
  | notANumber
  /-- A number beyond what can be represented. -/
  | unbounded
  /-- A quotient by zero. -/
  | divisionByZero
  /-- A word outside of a closed vocabulary; `value` is its quoted form. -/
  | unknown (value vocabulary : String)
  deriving Repr, DecidableEq, Inhabited

/-- What to tell about a fault. -/
def Fault.message : Fault → String
  | missing key => key
  | wrongType => "unsupported type"
  | notAnObject => "not an object"
  | notANumber => "cannot convert float NaN to integer"
  | unbounded => "number too large"
  | divisionByZero => "division by zero"
  | unknown value vocabulary => value ++ " is not a valid " ++ vocabulary

end FlowLint
