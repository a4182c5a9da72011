import FlowLint.Store

/-!
# Sessions

How a store changes from one statement to the next. What a statement wrote stays written when a
later one fails, unless both are in a transaction, which puts the tables back.

* `Session` is a computation on a store that may fail.
* `Session.transaction` makes one all or nothing.
* `Operation` is what a caller can ask of a store, and `Operation.run` asks one thing after the
  other, whether or not an earlier one failed.
-/

namespace FlowLint.Store

/-- A computation on a store. It may fail, and it leaves a store in either case. -/
abbrev Session (α : Type) := ExceptT StoreError (StateM Store) α

/-- The tables of an earlier store, identifiers included; the rest stays. -/
def rollback (s earlier : Store) : Store :=
  { s with units := earlier.units, groups := earlier.groups, systems := earlier.systems }

namespace Session

variable {α : Type}

/-- What a session gives on a store, and the store that it leaves. -/
def outcome (c : Session α) (s : Store) : Except StoreError α × Store :=
  (c.run.run s).run

/-- A single statement: where it fails, the store stays as it is. -/
def statement (f : Store → Except StoreError (α × Store)) : Session α := do
  match f (← get) with
  | .ok (a, s) =>
    set s
    return a
  | .error e => throw e

/-- A statement that only changes the store. -/
def change (f : Store → Except StoreError Store) : Session Unit :=
  statement fun s => return ((), ← f s)

/-- A statement that only reads the store. -/
def query (f : Store → Except StoreError α) : Session α :=
  statement fun s => return (← f s, s)

/-- All of a session on an open store, or nothing of it. -/
def transaction (body : Session α) : Session α := do
  query Store.opened
  let earlier ← get
  try body
  catch e =>
    modify (·.rollback earlier)
    throw e

/-! ## Writes -/

/-- Write the row of a unit of a group. -/
def insertUnit (groupId : Json) (e : UnitEntry) (stamp : String) : Session Unit :=
  change (·.appendUnit groupId e stamp)

/-- Write the row of a group. -/
def insertGroup (e : GroupEntry) (stamp : String) : Session Unit :=
  change (·.appendGroup e stamp)

/-- Write the row of a system. -/
def insertSystem (e : SystemEntry) (stamp : String) : Session Unit :=
  change (·.appendSystem e stamp)

/-- Write the rows of a group and of its units. -/
def insertGroupWithUnits (e : GroupEntry) (stamp : String) : Session Unit := do
  e.units.forM fun u => insertUnit e.groupId u stamp
  insertGroup e stamp

/-- Write all rows of a scan. -/
def insertScan (groups : List GroupEntry) (system : SystemEntry) (stamp : String) :
    Session Unit := do
  groups.forM fun g => insertGroupWithUnits g stamp
  insertSystem system stamp

/-- Store the record of a unit of a group. -/
def storeUnit (groupId : Json) (e : UnitEntry) (stamp : String) : Session Unit :=
  transaction (insertUnit groupId e stamp)

/-- Store the record of a group, without its units. -/
def storeGroup (e : GroupEntry) (stamp : String) : Session Unit :=
  transaction (insertGroup e stamp)

/-- Store the record of a system. -/
def storeSystem (e : SystemEntry) (stamp : String) : Session Unit :=
  transaction (insertSystem e stamp)

/-- Store all records of a scan. -/
def storeScan (groups : List GroupEntry) (system : SystemEntry) (stamp : String) : Session Unit :=
  transaction (insertScan groups system stamp)

end Session

/-! ## Operations -/

/-- What can be asked of a store. -/
inductive Operation where
  | unit (groupId : Json) (record : UnitEntry) (stamp : String)
  | group (record : GroupEntry) (stamp : String)
  | system (record : SystemEntry) (stamp : String)
  | scan (groups : List GroupEntry) (record : SystemEntry) (stamp : String)
  | latest (groupId : Json)
  | groupHistory (groupId limit : Json)
  | unitHistory (groupId unitId limit : Json)
  | systemHistory (limit : Json)
  | stats
  | setRetention (days : Json)
  | prune (days : Option Json) (now : String)
  | clear
  | close
  | reopen (days : Json)

/-- What a store answers. -/
inductive Answer where
  | done
  | latest (found : Option (GroupRecord Number))
  | groupRows (rows : List GroupRow)
  | unitRows (rows : List UnitRow)
  | systemRows (rows : List SystemRow)
  | stats (tables : Json)
  | days (period : Int)
  | removed (rows : Nat)

namespace Operation

/-- Do what is asked. -/
def perform : Operation → Session Answer
  | unit groupId record stamp => do
    Session.storeUnit groupId record stamp
    return .done
  | group record stamp => do
    Session.storeGroup record stamp
    return .done
  | system record stamp => do
    Session.storeSystem record stamp
    return .done
  | scan groups record stamp => do
    Session.storeScan groups record stamp
    return .done
  | latest groupId => return .latest (← Session.query (·.latestGroup groupId))
  | groupHistory groupId limit =>
    return .groupRows (← Session.query (·.groupHistory groupId limit))
  | unitHistory groupId unitId limit =>
    return .unitRows (← Session.query (·.unitHistory groupId unitId limit))
  | systemHistory limit => return .systemRows (← Session.query (·.systemHistory limit))
  | stats => return .stats (← Session.query Store.stats)
  | setRetention days => do
    Session.change (·.setRetention days)
    return .days (← get).retentionDays
  | prune days now =>
    Session.statement fun s => do
      let (s, removed, _) ← s.prune days now
      return (.removed removed, s)
  | clear => do
    Session.change Store.clear
    return .done
  | close => do
    modify Store.close
    return .done
  | reopen days => do
    Session.change (·.reopen days)
    return .days (← get).retentionDays

/-- Do one thing after the other: all answers, and the store at the end. -/
def run : List Operation → Store → List (Except StoreError Answer) × Store
  | [], s => ([], s)
  | op :: ops, s =>
    let (answer, s) := op.perform.outcome s
    let (answers, s) := run ops s
    (answer :: answers, s)

end Operation

end FlowLint.Store
