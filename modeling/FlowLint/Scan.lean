import FlowLint.Detect
import FlowLint.Flow
import FlowLint.Quality.Complexity
import FlowLint.Report.Alert
import FlowLint.Store.Session

/-!
# Scanning units

A scan looks at every unit of every group, scores the groups and the system, and tells two
collaborators: a notifier, which gets an alert for a group with findings before the next group is
scanned, and a sink, which gets the records when all groups are scanned. Each call of a
collaborator may fail. Such a failure is caught and noted.

* `Detector.recordOf` detects and scores a single source.
* `Scanning` is a part of a scan, which may fail, and which leaves a trace in either case.
* `Scanner.scan` is a whole scan: its result, and what the collaborators saw of it.
-/

namespace FlowLint

/-- Why a scan gives no result. -/
inductive ScanError where
  | detection (cause : DetectError)
  | score (cause : Fault)
  deriving Repr, DecidableEq

/-- A score, or why a scan gives none. -/
def scored {β : Type} (x : Except Fault β) : Except ScanError β :=
  x.mapError .score

/-- The number of lines of a text. -/
def lineCount (text : String) : Nat :=
  (splitLines text.toList).length

namespace Detector

variable (d : Detector)

/-- The sample of a unit. -/
def sampleOf (level : Json) (unit : UnitSource) : Except ScanError (UnitSample Number) := do
  let found ← (d.detect (.string unit.text) level).mapError .detection
  let complexity ← scored (Complexity.ofSource (.string unit.text))
  return { issues := found.issues, linesOfCode := .int (lineCount unit.text), complexity,
           unitId := unit.id, unitName := unit.name }

/-- The record of a single source, with the notes of its detection. -/
def recordOf (weights : Weights Number) (source level : Json) (unitId unitName : String) :
    Except ScanError (UnitRecord Number × List LogEntry) := do
  let text := match source with
    | .string s => s
    | _ => ""
  let found ← (d.detect (.string text) level).mapError .detection
  let complexity ← scored (Complexity.ofSource (.string text))
  let lines := if text = "" then 0 else lineCount text
  let record ← scored (unitRecord weights
    { issues := found.issues, linesOfCode := .int lines, complexity, unitId, unitName })
  return (record, found.notes)

end Detector

/-! ## Collaborators -/

/-- A call that a sink receives. -/
inductive SinkCall where
  | unit (groupId : String) (record : UnitRecord Number)
  | group (record : GroupRecord Number)
  | system (record : SystemRecord Number)

/-- Where records go. -/
inductive Sink where
  /-- A store, which takes a whole scan at once. -/
  | store (store : Store)
  /-- Anything else takes one record after the other. Given the calls before, it may answer a
  call with the text of a failure. -/
  | other (name : String) (respond : List SinkCall → SinkCall → Option String)

/-- The name of a kind of sink. -/
def Sink.name : Sink → String
  | store _ => "MetricsStore"
  | other name _ => name

/-- The store that a sink is, if it is one. -/
def Sink.store? : Sink → Option Store
  | store s => some s
  | other .. => none

/-- What a notifier answers. -/
inductive Reply where
  | accepted | refused
  | failed (text : String)
  deriving Repr, DecidableEq, Inhabited

/-- Who gets alerts. Given the alerts before, it answers an alert, and may leave notes. -/
abbrev Notifier := List Alert → Alert → Reply × List LogEntry

/-! ## Scans -/

/-- How a scan is run. -/
structure ScanSetup where
  profile : HostProfile := {}
  weights : Weights Number := Weights.standard
  sink : Option Sink := none
  notifier : Option Notifier := none
  instanceUrl : Option String := none
  persist : Bool := true
  notify : Bool := true
  /-- The time of the scan. -/
  time : String

/-- A reader of units, and how a scan is run. -/
structure Scanner extends ScanSetup where
  reader : Script.SyntaxReader

/-- The detector of a scan. -/
def Scanner.detector (s : Scanner) : Detector :=
  { reader := s.reader, profile := s.profile }

/-- The result of a scan. -/
structure ScanResult where
  reports : List (GroupReport Number) := []
  system : SystemRecord Number
  persisted : Bool := false
  /-- The groups whose alerts were accepted. -/
  notified : List String := []

/-- What others saw of a scan. -/
structure ScanTrace where
  /-- The alerts that the notifier received. -/
  alerts : List Alert := []
  /-- The calls that the sink received. -/
  calls : List SinkCall := []
  /-- The store, if the sink is one. -/
  store : Option Store := none
  notes : List LogEntry := []

/-- A part of a scan: it may fail with a cause, and what others saw of it stays seen. -/
abbrev Scanning (ε α : Type) := ExceptT ε (StateM ScanTrace) α

/-- Go on with something else where a part of a scan fails. -/
def Scanning.recover {ε α : Type} (c : Scanning ε α) (handle : ε → StateM ScanTrace α) :
    StateM ScanTrace α := do
  match ← c.run with
  | .ok a => return a
  | .error cause => handle cause

/-- Leave a note. -/
def leaveNote (entry : LogEntry) : StateM ScanTrace Unit :=
  modify fun t => { t with notes := t.notes ++ [entry] }

/-- The record of a group of units. -/
def Scanner.scanGroup (s : Scanner) (level : Json) (p : UnitProvider) (groupId : String) :
    Except ScanError (GroupRecord Number) := do
  let samples ← (p.units groupId).mapM (s.detector.sampleOf level)
  scored (groupRecord s.weights groupId (p.groupName groupId) samples)

/-- The report on a group of units. -/
def Scanner.scanReport (s : Scanner) (level : Json) (p : UnitProvider) (groupId : String) :
    Except ScanError (GroupReport Number) := do
  scored (groupReport (← s.scanGroup level p groupId))

/-- The note on a group that was scanned. -/
def scannedNote (r : GroupRecord Number) : LogEntry :=
  ⟨.info, "Scanned group " ++ r.groupName ++ ": " ++ integerText r.totalUnits ++ " unit(s), "
    ++ integerText r.totalIssues ++ " issue(s), score " ++ r.qualityScore.fixed 2⟩

/-! ### Notifying -/

/-- Send an alert. Was it accepted? -/
def sendAlert (send : Notifier) (alert : Alert) : Scanning String Bool := do
  let (reply, notes) := send (← get).alerts alert
  modify fun t => { t with alerts := t.alerts ++ [alert], notes := t.notes ++ notes }
  match reply with
  | .accepted => return true
  | .refused => return false
  | .failed text => throw text

/-- The note on an alert that could not be sent. -/
def unsentNote (groupId text : String) : LogEntry :=
  ⟨.warning, "Failed to notify for group " ++ groupId ++ ": " ++ text⟩

/-- Notify about a group, if there is somebody to notify. Was the alert accepted? -/
def notifyAbout (setup : ScanSetup) (r : GroupRecord Number) : StateM ScanTrace Bool :=
  match setup.notifier with
  | none => return false
  | some send =>
    (sendAlert send (Alert.ofGroup r setup.instanceUrl)).recover fun text => do
      leaveNote (unsentNote r.groupId text)
      return false

/-! ### Storing -/

/-- Call a sink that takes one record after the other. -/
def callSink (respond : List SinkCall → SinkCall → Option String) (call : SinkCall) :
    Scanning String Unit := do
  let failure := respond (← get).calls call
  modify fun t => { t with calls := t.calls ++ [call] }
  match failure with
  | none => return ()
  | some text => throw text

/-- Hand the records of a scan over to a sink: to a store at once, to anything else group after
group, the units of a group before it, and the system at the end. -/
def Sink.take (groups : List (GroupRecord Number)) (system : SystemRecord Number)
    (time : String) : Sink → Scanning String Unit
  | store s => do
    let (answer, after) := (Store.Session.storeScan (groups.map GroupRecord.toEntry)
      system.toEntry time).outcome s
    modify fun t => { t with store := some after }
    match answer with
    | .ok () => return ()
    | .error e => throw e.message
  | other _ respond => do
    groups.forM fun g => do
      g.units.forM fun u => callSink respond (.unit g.groupId u)
      callSink respond (.group g)
    callSink respond (.system system)

/-- The note on records that could not be stored. -/
def unstoredNote (name text : String) : LogEntry :=
  ⟨.error, "Failed to store quality metrics in " ++ name ++ ": " ++ text⟩

/-- Store the records of a scan in a sink. Were they all stored? -/
def storeRecords (sink : Sink) (groups : List (GroupRecord Number))
    (system : SystemRecord Number) (time : String) : StateM ScanTrace Bool :=
  Scanning.recover (do sink.take groups system time; return true) fun text => do
    leaveNote (unstoredNote sink.name text)
    return false

/-- Store the records of a scan, if they are to be stored and there is a sink for them. -/
def persistRecords (setup : ScanSetup) (groups : List (GroupRecord Number))
    (system : SystemRecord Number) : StateM ScanTrace Bool :=
  match setup.persist, setup.sink with
  | true, some sink => storeRecords sink groups system setup.time
  | _, _ => return false

/-! ### Group after group -/

/-- How far a scan has come: the reports on the groups so far, and whose alerts were accepted. -/
structure ScanProgress where
  reports : List (GroupReport Number) := []
  notified : List String := []

/-- Scan one more group, and notify about it if it has findings. -/
def Scanner.scanNext (s : Scanner) (level : Json) (p : UnitProvider) (done : ScanProgress)
    (groupId : String) : Scanning ScanError ScanProgress := do
  let report ← s.scanReport level p groupId
  leaveNote (scannedNote report.record)
  let done := { done with reports := done.reports ++ [report] }
  if s.notify && 0 < report.record.totalIssues then
    if ← notifyAbout s.toScanSetup report.record then
      return { done with notified := done.notified ++ [report.record.groupId] }
  return done

/-- Scan the units of a provider. -/
def Scanner.scanAll (s : Scanner) (level : Json) (p : UnitProvider) :
    Scanning ScanError ScanResult := do
  let level ← (clampLevel level).mapError fun fault => ScanError.detection (.level fault)
  let done ← p.groupIds.foldlM (s.scanNext (.int level) p) {}
  let groups := done.reports.map (·.record)
  let system ← scored (systemRecord groups)
  let persisted ← persistRecords s.toScanSetup groups system
  return { reports := done.reports, system, persisted, notified := done.notified }

/-- A whole scan: its result, and what others saw of it. -/
def Scanner.scan (s : Scanner) (level : Json) (p : UnitProvider) :
    Except ScanError ScanResult × ScanTrace :=
  (s.scanAll level p).run.run { store := s.sink.bind Sink.store? }

/-- The result of a scan as an object. -/
def ScanResult.toJson (r : ScanResult) : Json :=
  .object [
    ("groups", .array (r.reports.map GroupReport.toJson)),
    ("system", r.system.toJson),
    ("persisted", .bool r.persisted),
    ("notified", .array (r.notified.map Json.string))]

end FlowLint
