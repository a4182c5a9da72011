import FlowLint.Store.Row
import FlowLint.Store.Timestamp

/-!
# The store of quality records

Every record is kept with a timestamp and never overwritten, so that the history of a group can
be read back. Rows get ever larger identifiers, also after earlier ones were removed.

* Writes append rows. `Store.storeScan` writes all records of a scan or none of them.
* Reads list rows newest first: by timestamp, then by identifier.
* `Store.prune` removes rows older than the retention period.
-/

namespace FlowLint

/-- Rows in the order in which they were written, and the last identifier given out. -/
structure Table (ρ : Type) where
  rows : List ρ := []
  lastId : Nat := 0

namespace Table

variable {ρ : Type}

/-- Append a row, which gets the next identifier. -/
def append (t : Table ρ) (makeRow : Nat → Except StoreError ρ) : Except StoreError (Table ρ) := do
  let row ← makeRow (t.lastId + 1)
  return { rows := t.rows ++ [row], lastId := t.lastId + 1 }

/-- Keep only some rows. -/
def keep (t : Table ρ) (p : ρ → Bool) : Table ρ :=
  { t with rows := t.rows.filter p }

/-- Rows by timestamp, then by identifier, the greatest first. -/
def newestFirst (createdAt : ρ → String) (id : ρ → Nat) (rows : List ρ) : List ρ :=
  rows.mergeSort fun a b =>
    createdAt b < createdAt a || (createdAt a = createdAt b && id b ≤ id a)

/-- How many rows a table has, and its least and greatest timestamp. -/
def stats (createdAt : ρ → String) (t : Table ρ) : Json :=
  let stamps := t.rows.map createdAt
  let least := stamps.foldl (fun m s => if m.any (· ≤ s) then m else some s) (none : Option String)
  let greatest :=
    stamps.foldl (fun m s => if m.any (s ≤ ·) then m else some s) (none : Option String)
  let shown (m : Option String) : Json := (m.map Json.string).getD .null
  .object [("total", .int t.rows.length), ("oldest", shown least), ("newest", shown greatest)]

end Table

/-- The retention period unless another one is asked for. -/
def defaultRetention : Int := 7

/-- A retention period from 1 to 30 days. -/
def clampRetention (days : Json) : Except Fault Int :=
  days.clamped 1 30 defaultRetention

/-- A store of quality records. -/
structure Store where
  units : Table UnitRow := {}
  groups : Table GroupRow := {}
  systems : Table SystemRow := {}
  retentionDays : Int := defaultRetention
  isOpen : Bool := true

namespace Store

/-- Anything but closing needs an open store. -/
def opened (s : Store) : Except StoreError Unit :=
  if s.isOpen then .ok () else .error .closed

/-! ## Writes -/

/-- Append the record of a unit of a group. -/
def appendUnit (s : Store) (groupId : Json) (e : UnitEntry) (stamp : String) :
    Except StoreError Store := do
  return { s with units := ← s.units.append fun id => e.toRow id groupId stamp }

/-- Append the record of a group. -/
def appendGroup (s : Store) (e : GroupEntry) (stamp : String) : Except StoreError Store := do
  return { s with groups := ← s.groups.append fun id => e.toRow id stamp }

/-- Append the record of a system. -/
def appendSystem (s : Store) (e : SystemEntry) (stamp : String) : Except StoreError Store := do
  return { s with systems := ← s.systems.append fun id => e.toRow id stamp }

/-- Store the record of a unit of a group. -/
def storeUnit (s : Store) (groupId : Json) (e : UnitEntry) (stamp : String) :
    Except StoreError Store := do
  s.opened
  s.appendUnit groupId e stamp

/-- Store the record of a group, without its units. -/
def storeGroup (s : Store) (e : GroupEntry) (stamp : String) : Except StoreError Store := do
  s.opened
  s.appendGroup e stamp

/-- Store the record of a system. -/
def storeSystem (s : Store) (e : SystemEntry) (stamp : String) : Except StoreError Store := do
  s.opened
  s.appendSystem e stamp

/-- Append the records of a group and of its units. -/
def appendGroupWithUnits (s : Store) (e : GroupEntry) (stamp : String) : Except StoreError Store := do
  let s ← e.units.foldlM (fun s u => s.appendUnit e.groupId u stamp) s
  s.appendGroup e stamp

/-- Store all records of a scan, or none of them. -/
def storeScan (s : Store) (groups : List GroupEntry) (system : SystemEntry) (stamp : String) :
    Except StoreError Store := do
  s.opened
  let s ← groups.foldlM (fun s g => s.appendGroupWithUnits g stamp) s
  s.appendSystem system stamp

/-! ## Reads -/

/-- The text that an identifier is compared with; `none` matches nothing. -/
def sought (position : Nat) (id : Json) : Except StoreError (Option Cell) :=
  Cell.taken position .text id

/-- How many rows a limit allows; `none` is no limit. -/
def limitOf (limit : Option Cell) : Except StoreError (Option Nat) :=
  match limit.map Cell.numeric with
  | some (.int n) => .ok (if n < 0 then none else some n.toNat)
  | _ => .error .mismatch

/-- The first rows, as many as a limit allows. -/
def limited {ρ : Type} (limit : Option Nat) (rows : List ρ) : List ρ :=
  match limit with
  | some n => rows.take n
  | none => rows

/-- The rows of a group, newest first. -/
def groupRows (s : Store) (groupId : Option Cell) : List GroupRow :=
  Table.newestFirst GroupRow.createdAt GroupRow.id
    (s.groups.rows.filter fun r => groupId = some r.groupId)

/-- The latest record of a group. -/
def latestGroup (s : Store) (groupId : Json) : Except StoreError (Option (GroupRecord Number)) := do
  s.opened
  let group ← sought 1 groupId
  match s.groupRows group with
  | [] => return none
  | row :: _ => return some (← row.toRecord.mapError .value)

/-- The history of a group, newest first. -/
def groupHistory (s : Store) (groupId limit : Json) : Except StoreError (List GroupRow) := do
  s.opened
  let group ← sought 1 groupId
  let limit ← limitOf (← Cell.ofJson 2 limit)
  return limited limit (s.groupRows group)

/-- The history of a unit of a group, newest first. -/
def unitHistory (s : Store) (groupId unitId limit : Json) : Except StoreError (List UnitRow) := do
  s.opened
  let group ← sought 1 groupId
  let unit ← sought 2 unitId
  let limit ← limitOf (← Cell.ofJson 3 limit)
  return limited limit (Table.newestFirst UnitRow.createdAt UnitRow.id
    (s.units.rows.filter fun r => group = some r.groupId && unit = some r.unitId))

/-- The history of the system, newest first. -/
def systemHistory (s : Store) (limit : Json) : Except StoreError (List SystemRow) := do
  s.opened
  let limit ← limitOf (← Cell.ofJson 1 limit)
  return limited limit (Table.newestFirst SystemRow.createdAt SystemRow.id s.systems.rows)

/-- Row counts and the range of timestamps, table by table. -/
def stats (s : Store) : Except StoreError Json := do
  s.opened
  return .object [
    ("unit_quality", s.units.stats UnitRow.createdAt),
    ("group_quality", s.groups.stats GroupRow.createdAt),
    ("system_quality", s.systems.stats SystemRow.createdAt)]

/-! ## Retention -/

/-- Set the retention period. -/
def setRetention (s : Store) (days : Json) : Except StoreError Store := do
  return { s with retentionDays := ← (clampRetention days).mapError .value }

/-- The store without the rows written before a timestamp. -/
def without (s : Store) (cutoff : String) : Store :=
  { s with
    units := s.units.keep fun r => !(r.createdAt < cutoff)
    groups := s.groups.keep fun r => !(r.createdAt < cutoff)
    systems := s.systems.keep fun r => !(r.createdAt < cutoff) }

/-- The number of all rows. -/
def size (s : Store) : Nat :=
  s.units.rows.length + s.groups.rows.length + s.systems.rows.length

/-- The retention period that a request for pruning means. -/
def pruneDays (s : Store) (days : Option Json) : Except StoreError Int :=
  match days with
  | none => .ok s.retentionDays
  | some d => (clampRetention d).mapError .value

/-- Remove the rows older than the retention period. Gives the store, the number of rows removed
and the period in days. -/
def prune (s : Store) (days : Option Json) (now : String) : Except StoreError (Store × Nat × Int) := do
  let period ← s.pruneDays days
  let some cutoff := Timestamp.daysBefore? period.toNat now | throw (.value .unbounded)
  s.opened
  let kept := s.without cutoff
  return (kept, s.size - kept.size, period)

/-- Remove all rows. -/
def clear (s : Store) : Except StoreError Store := do
  s.opened
  return { s with
    units := s.units.keep fun _ => false
    groups := s.groups.keep fun _ => false
    systems := s.systems.keep fun _ => false }

/-- Close the store; closing it again does nothing. -/
def close (s : Store) : Store :=
  { s with isOpen := false }

/-- Open the same file again, with a retention period of its own. -/
def reopen (s : Store) (days : Json) : Except StoreError Store := do
  return { s with retentionDays := ← (clampRetention days).mapError .value, isOpen := true }

end Store

end FlowLint
