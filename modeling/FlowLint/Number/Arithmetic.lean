import FlowLint.Fault
import FlowLint.Number.Binary64

/-!
# Arithmetic that scores are computed in

Scores are defined once, over any arithmetic. Two are in use: exact rationals, in which nothing
fails, and the mixed integers and doubles of `Number`, in which an operation may.
-/

namespace FlowLint

/-- Numbers that can be written down and compared. -/
class Numeral (α : Type) where
  /-- An integer. -/
  whole : Int → α
  /-- A decimal constant, or the nearest value there is. -/
  decimal : Rat → α
  /-- A power of ten. -/
  powerOfTen : Int → α
  lt : α → α → Bool
  le : α → α → Bool

/-- Numbers to calculate with; an operation is an action of `m`. -/
class Arithmetic (m : Type → Type) (α : Type) extends Numeral α where
  plus : α → α → m α
  minus : α → α → m α
  times : α → α → m α
  dividedBy : α → α → m α
  /-- The greatest integer that is not larger. -/
  floor : α → m Int

export Numeral (whole decimal powerOfTen)
export Arithmetic (plus minus times dividedBy)

instance : Numeral Rat where
  whole n := n
  decimal q := q
  powerOfTen := tenPow
  lt a b := decide (a < b)
  le a b := decide (a ≤ b)

instance : Arithmetic Id Rat where
  plus a b := a + b
  minus a b := a - b
  times a b := a * b
  dividedBy a b := a / b
  floor q := q.floor

section

variable {m : Type → Type} {α : Type}

/-- The smaller of two numbers; the first one, if neither is smaller. -/
def smaller [Numeral α] (a b : α) : α :=
  if Numeral.lt b a then b else a

/-- The larger of two numbers; the first one, if neither is larger. -/
def larger [Numeral α] (a b : α) : α :=
  if Numeral.lt a b then b else a

/-- A sum from left to right, starting with zero. -/
def sumOf [Monad m] [Arithmetic m α] (xs : List α) : m α :=
  xs.foldlM plus (whole 0)

/-- A number rounded to a number of decimal places, a half going up. -/
def roundHalfUp [Monad m] [Arithmetic m α] (places : Int) (x : α) : m α := do
  let factor : α := powerOfTen places
  let shifted ← plus (← times x factor) (decimal (1 / 2))
  dividedBy (whole (← Arithmetic.floor shifted)) factor

end

end FlowLint
