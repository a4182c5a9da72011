import FlowLint.Scan
import FlowLint.Service.Request
import FlowLint.Service.Settings
import FlowLint.Webhook

/-!
# Handlers of the service

What the service does for a request whose content is decoded: it scores, checks, scans and tells the
history of a group. What lasts between requests is the store of quality records, which is opened
when it is first needed. An answer comes with the notes and the webhook requests that it caused.

What the service needs from outside is in its `Surroundings`, and how contents are decoded in a
`Decoding`.
-/

namespace FlowLint

/-- An answer. Pages are texts. -/
structure Response where
  status : Nat
  body : Json

namespace Response

/-- An answer that tells what is wrong. -/
def detail (status : Nat) (text : String) : Response :=
  ⟨status, .object [("detail", .string text)]⟩

/-- The answer when something went wrong that no one expected. -/
def failure : Response :=
  ⟨500, .string "Internal Server Error"⟩

end Response

/-- An answer and what came with it. -/
structure Outcome where
  response : Response
  store : Option Store := none
  notes : List LogEntry := []
  requests : List WebRequest := []

/-- What is found at a path that should lead to an export. -/
inductive ExportFile where
  | missing
  /-- What is there cannot be read, or is no structured value; the text says why. -/
  | unreadable (text : String)
  | value (data : Json)

/-- What the service needs from outside. -/
structure Surroundings where
  settings : Settings
  /-- Who reads the sources. -/
  reader : Script.SyntaxReader
  exportAt : String → ExportFile
  /-- Whether a store can be opened at a path. -/
  openStore : String → Except StoreError Unit
  delivery : Delivery
  /-- The time of all requests. -/
  time : String

/-- Does a path start at the top? -/
def isAbsolutePath (path : String) : Bool :=
  path.toList.head? = some '/'

namespace Service

/-! ## Scores -/

/-- An issue of a request that cannot be used. -/
def faultResponse : Fault → Response
  | .unknown value vocabulary =>
    .detail 400 ("Invalid issue: " ++ (Fault.unknown value vocabulary).message)
  | .notANumber => .detail 400 ("Invalid issue: " ++ Fault.notANumber.message)
  | _ => .failure

/-- The answer with a value, or the one for its fault. -/
def orFault (x : Except Fault Json) : Response :=
  match x with
  | .ok body => ⟨200, body⟩
  | .error fault => faultResponse fault

/-- Score one unit. -/
def scoreUnit (r : UnitScoreRequest) : Response :=
  orFault do
    let issues ← r.issues.mapM IssueInput.toIssue
    let score ← unitScore (Weights.standard : Weights Number) (issues.map Issue.kind)
      (.int r.linesOfCode)
    return .object [
      ("quality_score", score.toJson),
      ("has_critical_issue", .bool (issues.any (·.kind.isCritical))),
      ("grade", .string (Grade.ofScore score).letter)]

/-- Score a group. -/
def scoreGroup (r : GroupScoreRequest) : Response :=
  orFault do
    let samples ← r.units.mapM UnitInput.toSample
    let record ← groupRecord (Weights.standard : Weights Number) r.groupId r.groupName samples
    return (← groupReport record).toJson

/-- Score a system. -/
def scoreSystem (r : SystemScoreRequest) : Response :=
  match r.groups.mapM GroupInput.toRecord >>= systemRecord with
  | .ok system => ⟨200, system.toJson⟩
  | .error _ => .failure

/-! ## Checks -/

/-- The level of a request, or the one of the settings. -/
def levelOf (s : Surroundings) (level : Option Int) : Json :=
  .int (level.getD s.settings.detectionLevel)

/-- How the service looks at sources. -/
def detector (s : Surroundings) : Detector :=
  { reader := s.reader }

/-- The answer to a check of a source with a record. -/
def checkBody (r : CheckRequest) (record : UnitRecord Number) : Json :=
  let grade := Grade.ofScore record.qualityScore
  .object [
    ("issues", .array (record.issues.map Issue.toJson)),
    ("summary", .object ((Report.tally record.issues).map fun (kind, n) => (kind.name, .int n))),
    ("quality", .object [
      ("quality_score", record.qualityScore.toJson),
      ("complexity_score", record.complexityScore.toJson),
      ("lines_of_code", record.linesOfCode.toJson),
      ("issue_count", .int record.issueCount),
      ("has_critical_issue", .bool record.hasCriticalIssue),
      ("grade", .string grade.letter),
      ("grade_description", .string grade.description)]),
    ("report", if r.includeReport then .string (Report.ofUnit record.issues r.unitName) else .null)]

/-- Check one source. -/
def check (s : Surroundings) (r : CheckRequest) : Response × List LogEntry :=
  match (detector s).recordOf Weights.standard (.string r.code) (levelOf s r.detectionLevel) ""
      r.unitName with
  | .error _ => (.failure, [])
  | .ok (record, notes) =>
    (⟨200, checkBody r record⟩, if r.verbose.getD s.settings.verbose then notes else [])

/-! ## Scans -/

/-- The store, opened if it was not yet; `none` if records are not kept. -/
def openedStore (s : Surroundings) (store : Option Store) : Except StoreError (Option Store) :=
  match store with
  | some store => .ok (some store)
  | none =>
    if s.settings.databasePath = "" then .ok none
    else
      match s.openStore s.settings.databasePath with
      | .error e => .error e
      | .ok () => .ok (some { retentionDays := s.settings.retentionDays })

/-- An export that cannot be read. -/
def unreadableExport (text : String) : Response :=
  .detail 400 ("Could not read flow export: " ++ text)

/-- The export of a file. -/
def readExport (path : String) : ExportFile → Except Response FlowExport
  | .missing => .error (.detail 404 ("File not found: " ++ path))
  | .unreadable text => .error (unreadableExport text)
  | .value data =>
    match FlowExport.ofJson? data with
    | none => .error (unreadableExport FlowExport.formatMessage)
    | some e => .ok e

/-- The export that a request means. -/
def loadExport (s : Surroundings) (r : ScanRequest) : Except Response FlowExport :=
  let path := r.flowsPath.getD ""
  if path != "" then
    if !isAbsolutePath path then .error (.detail 400 "flows_path must be absolute")
    else readExport path (s.exportAt path)
  else
    match r.flows with
    | some items => .ok (.ofItems items)
    | none => .error (.detail 400 "Provide either flows_path or flows.")

/-- The webhook of the service. -/
def webhook (s : Surroundings) : Webhook :=
  { url := s.settings.webhookUrl }

/-- Alerts go to the webhook; one that is not delivered is noted. -/
def notifier (s : Surroundings) : Notifier := fun _ alert =>
  let sending := (webhook s).send s.delivery alert.text
  let notes := sending.notes ++
    if sending.handedOver then [⟨.info, "Code analysis alert:\n" ++ alert.text⟩] else []
  match sending.sent with
  | .ok true => (.accepted, notes)
  | .ok false => (.refused, notes)
  | .error e => (.failed e.message, notes)

/-- How the service scans for a request. -/
def scanner (s : Surroundings) (r : ScanRequest) (store : Option Store) : Scanner :=
  { reader := s.reader
    sink := if r.persist then store.map Sink.store else none
    notifier := if r.notify then some (notifier s) else none
    instanceUrl := some s.settings.instanceUrl
    persist := r.persist
    notify := r.notify
    time := s.time }

/-- Remove old rows after records were stored. -/
def pruned (s : Surroundings) (store : Store) : Store × List LogEntry :=
  match store.prune none s.time with
  | .ok (kept, removed, days) =>
    (kept, [⟨.info, "Pruned " ++ digitsText removed ++ " metric row(s) older than "
      ++ integerText days ++ " day(s)"⟩])
  | .error _ => (store, [])

/-- Scan an export. -/
def scanExport (s : Surroundings) (store : Option Store) (r : ScanRequest) (e : FlowExport) :
    Outcome :=
  let (result, trace) := (scanner s r store).scan (levelOf s r.detectionLevel) e
  let requests := trace.alerts.flatMap fun a =>
    ((webhook s).send s.delivery a.text).requests
  match result with
  | .error _ => { response := .failure, store, notes := trace.notes, requests }
  | .ok result =>
    let after := if r.persist then trace.store else store
    match result.persisted, after with
    | true, some store =>
      let (kept, notes) := pruned s store
      { response := ⟨200, result.toJson⟩, store := some kept, notes := trace.notes ++ notes,
        requests }
    | _, _ => { response := ⟨200, result.toJson⟩, store := after, notes := trace.notes, requests }

/-- The answer when the store cannot be used. -/
def storeResponse : StoreError → Response
  | .value _ => .failure
  | e => .detail 503 ("Metrics database unavailable: " ++ e.message)

/-- Scan an export for a request. -/
def runScan (s : Surroundings) (store : Option Store) (r : ScanRequest) : Outcome :=
  match loadExport s r with
  | .error response => { response, store }
  | .ok e =>
    if !r.persist then scanExport s store r e
    else
      match openedStore s store with
      | .error cause => { response := storeResponse cause, store }
      | .ok store => scanExport s store r e

/-! ## History -/

/-- The latest record and the history of a group. -/
def groupMetrics (store : Store) (groupId : String) (limit : Int) : Except StoreError Response := do
  let some latest ← store.latestGroup (.string groupId)
    | return .detail 404 ("No quality records for group: " ++ groupId)
  let history ← store.groupHistory (.string groupId) (.int limit)
  return ⟨200, .object [
    ("latest", .object latest.summary), ("history", .array (history.map GroupRow.toJson))]⟩

/-- The answer to a request for the history of a group. -/
def runGroupMetrics (s : Surroundings) (store : Option Store) (groupId : String) (limit : Int) :
    Outcome :=
  match openedStore s store with
  | .error cause => { response := storeResponse cause, store }
  | .ok none =>
    { response := .detail 503 "Metrics persistence is disabled (METRICS_DB_PATH is empty)" }
  | .ok (some store) =>
    match groupMetrics store groupId limit with
    | .ok response => { response, store := some store }
    | .error cause => { response := storeResponse cause, store := some store }

end Service

/-! ## Decoding -/

/-- How the contents that are posted to be scored are decoded: as what a handler takes, or as the
answer to a content of another shape. -/
structure Decoding where
  unit : Json → Except Response UnitScoreRequest
  group : Json → Except Response GroupScoreRequest
  system : Json → Except Response SystemScoreRequest

namespace Decoding

variable (d : Decoding)

/-- The answer to a content, which is handled if it is decoded. -/
def handled {α : Type} (handle : α → Response) : Except Response α → Response
  | .ok r => handle r
  | .error response => response

/-- Score a unit that is posted. -/
def postUnit (content : Json) : Response :=
  handled Service.scoreUnit (d.unit content)

/-- Score a group that is posted. -/
def postGroup (content : Json) : Response :=
  handled Service.scoreGroup (d.group content)

/-- Score a system that is posted. -/
def postSystem (content : Json) : Response :=
  handled Service.scoreSystem (d.system content)

end Decoding

end FlowLint
