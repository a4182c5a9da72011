import FlowLint.Script.Concrete

/-!
# Reading an expression as a pattern

The left side of an assignment and the parameters of an arrow function are read as expressions
first. `Concrete.toPattern` turns what was read into the pattern it stands for, or declines.
-/

namespace FlowLint.Script.Concrete

mutual

/-- The pattern that an expression stands for. With `nested`, a default value and a rest element
are allowed as well. -/
def toPattern (nested : Bool) : Concrete → Option Concrete
  | node k r s t cs =>
    match k with
    | .identifier | .undefined | .member | .subscript | .arrayPattern | .objectPattern =>
      some (node k r s t cs)
    | .array => do return node .arrayPattern r s t (← toPatterns true cs)
    | .object => do return node .objectPattern r s t (← toPatternProperties cs)
    | .assignment =>
      if nested && !cs.any (fun c => c.kind == .parenthesized && c.role == .left) then
        some (node .assignmentPattern r s t cs)
      else none
    | .spreadElement =>
      if nested then do return node .restPattern r s t (← toPatterns false cs) else none
    | _ => none

/-- `toPattern` for each of several expressions. -/
def toPatterns (nested : Bool) : List Concrete → Option (List Concrete)
  | [] => some []
  | c :: cs => do return (← toPattern nested c) :: (← toPatterns nested cs)

/-- The children of a property with its value read as a pattern. -/
def toPatternValue : List Concrete → Option (List Concrete)
  | [] => some []
  | c :: cs => do
    let c ← if c.role == .value then toPattern true c else some c
    return c :: (← toPatternValue cs)

/-- The properties of an object expression read as those of an object pattern. -/
def toPatternProperties : List Concrete → Option (List Concrete)
  | [] => some []
  | node k r s t cs :: rest => do
    let property ← match k with
      | .shorthandProperty => some (node .shorthandPropertyPattern r s t cs)
      | .objectAssignmentPattern => some (node k r s t cs)
      | .pair => do some (node .pairPattern r s t (← toPatternValue cs))
      | .spreadElement => do some (node .restPattern r s t (← toPatterns false cs))
      | _ => none
    return property :: (← toPatternProperties rest)

end

end FlowLint.Script.Concrete
