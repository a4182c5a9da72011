import FlowLint.Quality.Impact
import FlowLint.Quality.Record

/-!
# Scores

Scores run from 0 to 100 and are rounded to two decimals, a half going up. Findings of a critical
kind cap the score that can be reached, for a unit, for its group and for the system.

* `unitScore`: weights of the findings, more the longer the unit is.
* `groupRecord`: the mean of the unit scores, less penalties for faulty and critical units.
* `systemRecord`: the mean of the group scores by number of units, with caps of its own.
-/

namespace FlowLint

variable {m : Type → Type} {α : Type} [Monad m] [Arithmetic m α]

/-! ## Units -/

/-- What one finding takes off; a critical one counts one and a half times. -/
def penalty (weights : Weights α) (kind : IssueKind) : m α :=
  if kind.isCritical then times (weights kind) (decimal (3 / 2)) else pure (weights kind)

/-- What all findings take off, before the size of the unit is considered. -/
def deduction (weights : Weights α) (kinds : List IssueKind) : m α :=
  kinds.foldlM (fun total kind => do plus total (← penalty weights kind)) (decimal 0)

/-- The highest score that a number of critical findings leaves. -/
def ceilingFor {β : Type} [Numeral β] (critical : Nat) : β :=
  let first : β := if 0 < critical then smaller (decimal 100) (whole 40) else decimal 100
  if 2 ≤ critical then smaller first (whole 15) else first

/-- How much the size of a unit multiplies what is taken off. -/
def sizeMultiplier (linesOfCode : α) : m α := do
  let share ← dividedBy (larger linesOfCode (whole 0)) (whole 150)
  return smaller (← plus (whole 1) share) (decimal (5 / 2))

/-- The score of a unit with findings of the given kinds. -/
def unitScore (weights : Weights α) (kinds : List IssueKind) (linesOfCode : α) : m α := do
  let base ← deduction weights kinds
  let taken ← times base (← sizeMultiplier linesOfCode)
  let left ← minus (ceilingFor (kinds.countP IssueKind.isCritical)) taken
  roundHalfUp 2 (larger (decimal 0) left)

/-- The record of a unit. -/
def unitRecord (weights : Weights α) (sample : UnitSample α) : m (UnitRecord α) := do
  return { unitId := sample.unitId
           unitName := sample.unitName
           issues := sample.issues
           linesOfCode := sample.linesOfCode
           complexityScore := sample.complexity
           qualityScore := ← unitScore weights (sample.issues.map Issue.kind) sample.linesOfCode
           hasCriticalIssue := sample.issues.any (·.kind.isCritical) }

/-! ## Groups -/

/-- The kinds of findings, in the order in which they are first seen. -/
def firstSeen (kinds : List IssueKind) : List IssueKind :=
  kinds.foldl (fun seen kind => if kind ∈ seen then seen else seen ++ [kind]) []

/-- A share of a whole, times a factor. -/
def shareTimes (part total : Int) (factor : Int) : m α := do
  times (← dividedBy (whole part) (whole total)) (whole factor)

/-- The score of a group before caps, and the mean complexity of its units. -/
def groupMeans (records : List (UnitRecord α)) (faulty critical : Nat) : m (α × α) := do
  if records.isEmpty then
    return (decimal 100, decimal 0)
  let total : Int := records.length
  let complexity ← dividedBy (← sumOf (records.map (·.complexityScore))) (whole total)
  let mean ← dividedBy (← sumOf (records.map (·.qualityScore))) (whole total)
  let lessCritical ← minus mean (← shareTimes critical total 60)
  let lessFaulty ← minus lessCritical (← shareTimes faulty total 25)
  if faulty = 0 then
    return (lessFaulty, complexity)
  let lessComplex ← minus lessFaulty (smaller (← dividedBy complexity (decimal (3 / 2))) (whole 40))
  return (lessComplex, complexity)

/-- Is a share of a whole larger than a bound? A whole of nothing has no shares. -/
def exceeds (m : Type → Type) (α : Type) [Monad m] [Arithmetic m α] (part total : Int)
    (bound : Rat) : m Bool := do
  if total = 0 then
    return false
  let share : α ← dividedBy (whole part) (whole total)
  return Numeral.lt (decimal bound) share

/-- The sum of integers. -/
def sumOfCounts (counts : List Int) : Int :=
  counts.foldr (· + ·) 0

/-- The record of a group from the records of its units. -/
def groupRecordOf (groupId groupName : String) (records : List (UnitRecord α)) :
    m (GroupRecord α) := do
  let faulty := records.filter fun r => !r.issues.isEmpty
  let critical := faulty.filter (·.hasCriticalIssue)
  let (score, complexity) ← groupMeans records faulty.length critical.length
  let capped := if critical.isEmpty then score else smaller score (whole 50)
  let mostlyFaulty ← exceeds m α faulty.length records.length (1 / 2)
  let final := if mostlyFaulty then smaller capped (whole 30) else capped
  return { groupId, groupName
           totalIssues := sumOfCounts (records.map (fun r => (r.issueCount : Int)))
           unitsWithIssues := faulty.length
           unitsWithCriticalIssues := critical.length
           totalUnits := records.length
           distinctKinds :=
             (firstSeen (faulty.flatMap fun r => r.issues.map Issue.kind)).map fun k =>
               .string k.name
           qualityScore := larger (decimal 0) (← roundHalfUp 2 final)
           complexityScore := ← roundHalfUp 2 complexity
           units := records }

/-- The record of a group of units. -/
def groupRecord (weights : Weights α) (groupId groupName : String)
    (samples : List (UnitSample α)) : m (GroupRecord α) := do
  groupRecordOf groupId groupName (← samples.mapM (unitRecord weights))

/-! ## Systems -/

/-- A mean over groups, each counted with its number of units. -/
def meanByUnits (measure : GroupRecord α → α) (total : Int) (groups : List (GroupRecord α)) :
    m α := do
  let parts ← groups.mapM fun g => times (measure g) (whole g.totalUnits)
  dividedBy (← sumOf parts) (whole total)

/-- The overall quality of groups with `total` units, before rounding. -/
def overallQuality (groups : List (GroupRecord α)) (total affected critical : Int) : m α := do
  let mean ← meanByUnits (·.qualityScore) total groups
  let less ← minus mean (← shareTimes critical total 70)
  let widespread ← exceeds m α affected total (1 / 4)
  let capped := if widespread then smaller less (whole 60) else less
  return if critical = 0 then capped else smaller capped (whole 65)

/-- The technical debt of groups with `total` units, before rounding. -/
def technicalDebt (issues total critical : Int) : m α := do
  let byIssues := smaller (← shareTimes issues total 35) (whole 100)
  return smaller (← plus byIssues (← shareTimes critical total 40)) (whole 100)

/-- The record of a system from the records of its groups. -/
def systemRecord (groups : List (GroupRecord α)) : m (SystemRecord α) := do
  let total := sumOfCounts (groups.map (·.totalUnits))
  let affected := sumOfCounts (groups.map (·.unitsWithIssues))
  let critical := sumOfCounts (groups.map (·.unitsWithCriticalIssues))
  let (overall, debt, complexity) ←
    if total = 0 then
      pure (decimal 100, decimal 0, decimal 0)
    else do
      let overall ← overallQuality groups total affected critical
      let debt ← technicalDebt (sumOfCounts (groups.map (·.totalIssues))) total critical
      let complexity ← meanByUnits (·.complexityScore) total groups
      pure (overall, debt, complexity)
  return { overallQuality := larger (decimal 0) (← roundHalfUp 2 overall)
           technicalDebt := ← roundHalfUp 2 debt
           complexity := ← roundHalfUp 2 complexity
           groupCount := groups.length
           affectedUnits := affected
           criticalUnits := critical }

end FlowLint
