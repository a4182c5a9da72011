import FlowLint.Proofs.Findings
import FlowLint.Proofs.Totality

/-!
# Scans and their collaborators

A scan calls its notifier while it goes from group to group, and its sink at the end. Any of these
calls may fail. This module says what has happened after each group, and that no call has a say in
the scores.

* `Scanner.evaluate` is a scan without anybody who is told. `scan_evaluate`: a scan gives its
  scores, and fails where it fails.
* `scan_scores`: with any collaborators the scores are those without collaborators.
* `Told` is what holds after some groups; `Told.next` is one group more, `Told.run` all of them.
-/

namespace FlowLint

/-! ## Parts of a scan -/

namespace Scanning

variable {ε α β : Type}

/-- What a part of a scan gives after a trace, and the trace that it leaves. -/
def outcome (c : Scanning ε α) (t : ScanTrace) : Except ε α × ScanTrace :=
  (c.run.run t).run

/-- A failure ends a part of a scan, and what was seen before it stays seen. -/
theorem outcome_bind (c : Scanning ε α) (k : α → Scanning ε β) (t : ScanTrace) :
    outcome (c >>= k) t =
      match outcome c t with
      | (.ok a, t) => outcome (k a) t
      | (.error e, t) => (.error e, t) := by
  unfold outcome ExceptT.run StateT.run Id.run
  simp only [bind, ExceptT.bind, ExceptT.mk, StateT.bind, ExceptT.bindCont]
  cases c t with
  | mk x t => cases x <;> rfl

@[simp]
theorem outcome_pure (a : α) (t : ScanTrace) : outcome (pure a : Scanning ε α) t = (.ok a, t) :=
  rfl

@[simp]
theorem outcome_liftM (c : StateM ScanTrace α) (t : ScanTrace) :
    outcome (liftM c : Scanning ε α) t = (.ok (c t).1, (c t).2) :=
  rfl

@[simp]
theorem outcome_except (x : Except ε α) (t : ScanTrace) :
    outcome (liftM x : Scanning ε α) t = (x, t) :=
  rfl

@[simp]
theorem outcome_get (t : ScanTrace) : outcome (get : Scanning ε ScanTrace) t = (.ok t, t) :=
  rfl

@[simp]
theorem outcome_modify (f : ScanTrace → ScanTrace) (t : ScanTrace) :
    outcome (modify f : Scanning ε Unit) t = (.ok (), f t) :=
  rfl

@[simp]
theorem outcome_throw (e : ε) (t : ScanTrace) :
    outcome (throw e : Scanning ε α) t = (.error e, t) :=
  rfl

theorem run_recover (c : Scanning ε α) (handle : ε → StateM ScanTrace α) (t : ScanTrace) :
    recover c handle t =
      match outcome c t with
      | (.ok a, t) => (a, t)
      | (.error e, t) => handle e t := by
  unfold outcome recover ExceptT.run StateT.run Id.run
  simp only [bind, StateT.bind]
  cases c t with
  | mk x t => cases x <;> rfl

end Scanning

open Scanning

theorem scan_eq_outcome (scanner : Scanner) (level : Json) (p : UnitProvider) :
    scanner.scan level p =
      outcome (scanner.scanAll level p) { store := scanner.sink.bind Sink.store? } :=
  rfl

/-! ## Alerts -/

/-- The alerts that are accepted when they are sent one after the other. -/
def acceptedAlerts (send : Notifier) (alerts : List Alert) : List Alert :=
  (alerts.zipIdx.filter fun (alert, i) => (send (alerts.take i) alert).1 = .accepted).map Prod.fst

/-- Whether an alert is accepted does not depend on the alerts after it. -/
theorem acceptedAlerts_append (send : Notifier) (alerts : List Alert) (alert : Alert) :
    acceptedAlerts send (alerts ++ [alert]) =
      acceptedAlerts send alerts ++ if (send alerts alert).1 = .accepted then [alert] else [] := by
  have hbefore : ∀ x ∈ alerts.zipIdx, (alerts ++ [alert]).take x.2 = alerts.take x.2 := by
    intro x hx
    have hlt := (List.mem_zipIdx hx).2.1
    exact List.take_append_of_le_length (by omega)
  unfold acceptedAlerts
  rw [List.zipIdx_append, List.filter_append, List.map_append]
  congr 1
  · rw [List.filter_congr]
    intro x hx
    simp only [hbefore x hx]
  · simp only [List.zipIdx_cons, List.zipIdx_nil, Nat.zero_add, List.take_left', List.filter_cons,
      List.filter_nil]
    split <;> simp_all

namespace ScanSetup

variable (setup : ScanSetup)

/-- The groups that are worth an alert. -/
def alertedReports (reports : List (GroupReport Number)) : List (GroupReport Number) :=
  if setup.notify then reports.filter fun r => 0 < r.record.totalIssues else []

/-- The alerts on groups, if there is a notifier that is to be told. -/
def alertsOn (reports : List (GroupReport Number)) : List Alert :=
  match setup.notifier with
  | none => []
  | some _ => (setup.alertedReports reports).map fun r => Alert.ofGroup r.record setup.instanceUrl

/-- The groups whose alerts are accepted. -/
def notifiedOf (reports : List (GroupReport Number)) : List String :=
  match setup.notifier with
  | none => []
  | some send => (acceptedAlerts send (setup.alertsOn reports)).map Alert.groupId

end ScanSetup

/-! ## Group after group -/

variable {setup : ScanSetup} {scanner : Scanner} {level : Json} {p : UnitProvider}

/-- What holds when some groups are scanned: who was told about them, and that the sink has not
been called yet. -/
structure Told (setup : ScanSetup) (reports : List (GroupReport Number)) (done : ScanProgress)
    (t : ScanTrace) : Prop where
  found : done.reports = reports
  notified : done.notified = setup.notifiedOf reports
  alerts : t.alerts = setup.alertsOn reports
  calls : t.calls = []
  store : t.store = setup.sink.bind Sink.store?

theorem notifyAbout_none (h : setup.notifier = none) (r : GroupRecord Number) (t : ScanTrace) :
    notifyAbout setup r t = (false, t) := by
  unfold notifyAbout
  rw [h]
  rfl

/-- A notifier gets an alert, and only an accepted one counts, whatever else happens. -/
theorem notifyAbout_some {send : Notifier} (h : setup.notifier = some send) (r : GroupRecord Number)
    (t : ScanTrace) :
    ∃ notes, notifyAbout setup r t =
      (decide ((send t.alerts (Alert.ofGroup r setup.instanceUrl)).1 = .accepted),
        { t with alerts := t.alerts ++ [Alert.ofGroup r setup.instanceUrl], notes }) := by
  unfold notifyAbout
  rw [h]
  dsimp only
  rw [run_recover]
  generalize Alert.ofGroup r setup.instanceUrl = alert
  unfold sendAlert
  simp only [outcome_bind, outcome_get]
  generalize send t.alerts alert = answer
  obtain ⟨reply, notes⟩ := answer
  simp only [outcome_modify]
  cases reply with
  | accepted => exact ⟨_, rfl⟩
  | refused => exact ⟨_, rfl⟩
  | failed text => exact ⟨_, rfl⟩

theorem alertedReports_append (setup : ScanSetup) (reports : List (GroupReport Number))
    (report : GroupReport Number) :
    setup.alertedReports (reports ++ [report]) =
      setup.alertedReports reports ++
        if setup.notify ∧ 0 < report.record.totalIssues then [report] else [] := by
  unfold ScanSetup.alertedReports
  by_cases hnotify : setup.notify = true
  · by_cases hissues : 0 < report.record.totalIssues
    · simp [hnotify, hissues]
    · simp [hnotify, hissues]
  · simp [hnotify]

theorem scanNext_error {groupId : String} {cause : ScanError}
    (h : scanner.scanReport level p groupId = .error cause) (done : ScanProgress) (t : ScanTrace) :
    outcome (scanner.scanNext level p done groupId) t = (.error cause, t) := by
  unfold Scanner.scanNext
  rw [outcome_bind, outcome_except, h]

section

variable {reports : List (GroupReport Number)} {report : GroupReport Number} {done : ScanProgress}
  {t : ScanTrace}

/-- A group that nobody is told about. -/
theorem Told.silent (h : Told setup reports done t)
    (hsilent : setup.alertsOn (reports ++ [report]) = setup.alertsOn reports) :
    Told setup (reports ++ [report]) { done with reports := done.reports ++ [report] } t where
  found := congrArg (· ++ [report]) h.found
  notified := by
    rw [h.notified]
    unfold ScanSetup.notifiedOf
    rw [hsilent]
  alerts := h.alerts.trans hsilent.symm
  calls := h.calls
  store := h.store

/-- A group that the notifier is told about. -/
theorem Told.alerted {send : Notifier} {alert : Alert} (notes : List LogEntry)
    (h : Told setup reports done t) (hsend : setup.notifier = some send)
    (halert : setup.alertsOn (reports ++ [report]) = setup.alertsOn reports ++ [alert]) :
    Told setup (reports ++ [report])
      { reports := done.reports ++ [report]
        notified := done.notified ++
          if (send t.alerts alert).1 = .accepted then [alert.groupId] else [] }
      { t with alerts := t.alerts ++ [alert], notes } where
  found := congrArg (· ++ [report]) h.found
  notified := by
    rw [h.notified, h.alerts]
    unfold ScanSetup.notifiedOf
    rw [hsend, halert]
    dsimp only
    rw [acceptedAlerts_append, List.map_append]
    split <;> rfl
  alerts := by rw [h.alerts, halert]
  calls := h.calls
  store := h.store

/-- One group more: its report is added, and if it has findings it is told. -/
theorem Told.next {groupId : String} (hdone : Told scanner.toScanSetup reports done t)
    (h : scanner.scanReport level p groupId = .ok report) :
    ∃ done' t', outcome (scanner.scanNext level p done groupId) t = (.ok done', t') ∧
      Told scanner.toScanSetup (reports ++ [report]) done' t' := by
  unfold Scanner.scanNext
  simp only [outcome_bind, outcome_except, h, outcome_liftM]
  generalize hnoted : (leaveNote (scannedNote report.record) t).2 = noted
  have hbefore : Told scanner.toScanSetup reports done noted := by
    rw [← hnoted]
    exact ⟨hdone.found, hdone.notified, hdone.alerts, hdone.calls, hdone.store⟩
  have halerted := alertedReports_append scanner.toScanSetup reports report
  by_cases htell : scanner.notify = true ∧ 0 < report.record.totalIssues
  · have hcond : (scanner.notify && decide (0 < report.record.totalIssues)) = true := by
      simpa using htell
    rw [if_pos htell] at halerted
    rw [if_pos hcond]
    simp only [outcome_bind, outcome_liftM]
    cases hnotifier : scanner.notifier with
    | none =>
      rw [notifyAbout_none hnotifier]
      refine ⟨_, _, rfl, hbefore.silent ?_⟩
      simp only [ScanSetup.alertsOn, hnotifier]
    | some send =>
      obtain ⟨notes, htold⟩ := notifyAbout_some hnotifier report.record noted
      rw [htold]
      have halert : scanner.alertsOn (reports ++ [report]) =
          scanner.alertsOn reports ++ [Alert.ofGroup report.record scanner.instanceUrl] := by
        simp only [ScanSetup.alertsOn, hnotifier, halerted, List.map_append, List.map_cons,
          List.map_nil]
      have hafter := hbefore.alerted notes hnotifier halert
      by_cases haccepted :
          (send noted.alerts (Alert.ofGroup report.record scanner.instanceUrl)).1 = .accepted
      · rw [if_pos haccepted] at hafter
        simp only [haccepted, decide_true, if_true]
        exact ⟨_, _, rfl, hafter⟩
      · rw [if_neg haccepted, List.append_nil] at hafter
        simp only [haccepted, decide_false]
        exact ⟨_, _, rfl, hafter⟩
  · have hcond : ¬(scanner.notify && decide (0 < report.record.totalIssues)) = true := by
      simpa using htell
    rw [if_neg htell, List.append_nil] at halerted
    rw [if_neg hcond]
    refine ⟨_, _, rfl, hbefore.silent ?_⟩
    simp only [ScanSetup.alertsOn, halerted]

/-- All groups: a scan gives a report on every group, unless there is one that has none. -/
theorem Told.run (level : Json) (p : UnitProvider) (groupIds : List String)
    (hdone : Told scanner.toScanSetup reports done t) :
    match groupIds.mapM (scanner.scanReport level p) with
    | .ok more => ∃ done' t', outcome (groupIds.foldlM (scanner.scanNext level p) done) t =
        (.ok done', t') ∧ Told scanner.toScanSetup (reports ++ more) done' t'
    | .error cause => ∃ t', outcome (groupIds.foldlM (scanner.scanNext level p) done) t =
        (.error cause, t') := by
  induction groupIds generalizing reports done t with
  | nil =>
    rw [List.mapM_nil]
    refine ⟨done, t, rfl, ?_⟩
    rwa [List.append_nil]
  | cons groupId groupIds ih =>
    rw [List.mapM_cons, List.foldlM_cons, outcome_bind]
    cases hreport : scanner.scanReport level p groupId with
    | error cause =>
      rw [scanNext_error hreport]
      exact ⟨t, rfl⟩
    | ok report =>
      obtain ⟨done', t', hnext, htold⟩ := hdone.next hreport
      have hrest := ih htold
      rw [hnext]
      cases hmore : groupIds.mapM (scanner.scanReport level p) with
      | error cause =>
        rw [hmore] at hrest
        exact hrest
      | ok more =>
        rw [hmore] at hrest
        simp only [List.append_assoc] at hrest
        exact hrest

end

/-! ## The scores -/

/-- A scan without anybody who is told: the reports on the groups and the record of the system. -/
def Scanner.evaluate (scanner : Scanner) (level : Json) (p : UnitProvider) :
    Except ScanError (List (GroupReport Number) × SystemRecord Number) := do
  let level ← (clampLevel level).mapError fun fault => ScanError.detection (.level fault)
  let reports ← p.groupIds.mapM (scanner.scanReport (.int level) p)
  let system ← scored (systemRecord (reports.map (·.record)))
  return (reports, system)

/-- A scan that nobody has been told about yet. -/
theorem Told.start (setup : ScanSetup) :
    Told setup [] {} { store := setup.sink.bind Sink.store? } := by
  have hnone : setup.alertsOn [] = [] := by
    cases hnotifier : setup.notifier <;>
      simp [ScanSetup.alertsOn, ScanSetup.alertedReports, hnotifier]
  have hnobody : setup.notifiedOf [] = [] := by
    cases hnotifier : setup.notifier <;>
      simp [ScanSetup.notifiedOf, hnotifier, hnone, acceptedAlerts]
  exact ⟨rfl, hnobody.symm, hnone.symm, rfl, rfl⟩

/-- A scan gives its scores, and then its sink is called; it fails where it has no scores. -/
theorem scan_evaluate (scanner : Scanner) (level : Json) (p : UnitProvider) :
    match scanner.evaluate level p with
    | .ok (reports, system) => ∃ done t, Told scanner.toScanSetup reports done t ∧
        scanner.scan level p =
          (.ok { reports, system, notified := done.notified,
                 persisted :=
                  (persistRecords scanner.toScanSetup (reports.map (·.record)) system t).1 },
            (persistRecords scanner.toScanSetup (reports.map (·.record)) system t).2)
    | .error cause => (scanner.scan level p).1 = .error cause := by
  rw [scan_eq_outcome]
  unfold Scanner.evaluate Scanner.scanAll
  cases clampLevel level with
  | error fault => rfl
  | ok n =>
    have hgroups := (Told.start scanner.toScanSetup).run (.int n) p p.groupIds
    rw [outcome_bind, outcome_except]
    dsimp only [Except.mapError]
    rw [outcome_bind]
    cases hreports : p.groupIds.mapM (scanner.scanReport (.int n) p) with
    | error cause =>
      rw [hreports] at hgroups
      obtain ⟨t, hfold⟩ := hgroups
      rw [hfold]
      simp only [bind, Except.bind, hreports]
    | ok reports =>
      rw [hreports] at hgroups
      obtain ⟨done, t, hfold, htold⟩ := hgroups
      rw [hfold]
      rw [List.nil_append] at htold
      simp only [bind, Except.bind, hreports, htold.found]
      cases hsystem : scored (systemRecord (reports.map (·.record))) with
      | error cause => rfl
      | ok system => exact ⟨done, t, htold, rfl⟩

theorem evaluate_of_scan {result : ScanResult} (h : (scanner.scan level p).1 = .ok result) :
    scanner.evaluate level p = .ok (result.reports, result.system) := by
  have hscan := scan_evaluate scanner level p
  cases hscores : scanner.evaluate level p with
  | error cause =>
    rw [hscores] at hscan
    cases hscan.symm.trans h
  | ok scores =>
    rw [hscores] at hscan
    obtain ⟨done, t, -, hall⟩ := hscan
    rw [hall] at h
    cases h
    rfl

/-- **Independence.** If a scan without collaborators gives a result, then so does the same scan
with any sink and any notifier, which may refuse or fail at any of their calls: it gives the same
reports and the same record of the system. -/
theorem scan_scores (scanner : Scanner) (level : Json) (p : UnitProvider) {quiet : ScanResult}
    (hquiet : (Scanner.scan { scanner with sink := none, notifier := none } level p).1 = .ok quiet)
    (sink : Option Sink) (notifier : Option Notifier) (instanceUrl : Option String)
    (persist notify : Bool) (time : String) :
    ∃ result,
      (Scanner.scan { scanner with sink, notifier, instanceUrl, persist, notify, time } level p).1 =
        .ok result ∧
      result.reports = quiet.reports ∧ result.system = quiet.system := by
  let told : Scanner := { scanner with sink, notifier, instanceUrl, persist, notify, time }
  let alone : Scanner := { scanner with sink := none, notifier := none }
  have hscan := scan_evaluate told level p
  have hquietScan := scan_evaluate alone level p
  -- The scores ask for the reader, the profile and the weights only.
  have hsame : told.evaluate level p = alone.evaluate level p := rfl
  rw [hsame] at hscan
  cases heval : alone.evaluate level p with
  | error cause =>
    rw [heval] at hquietScan
    cases hquietScan.symm.trans hquiet
  | ok scores =>
    obtain ⟨reports, system⟩ := scores
    rw [heval] at hscan hquietScan
    obtain ⟨done, t, -, hscan⟩ := hscan
    obtain ⟨_, _, -, hquietScan⟩ := hquietScan
    cases (congrArg Prod.fst hquietScan).symm.trans hquiet
    exact ⟨_, congrArg Prod.fst hscan, rfl, rfl⟩

/-- One group with a breakpoint in its only unit, and one without findings. -/
def twoGroups : UnitProvider where
  groupIds := ["a", "b"]
  groupName id := id
  units id :=
    if id = "a" then [{ id := "u", name := "first", text := "debugger;" }]
    else [{ id := "v", name := "second", text := "f();" }]

/-- A notifier that cannot be reached. -/
def unreachable : Notifier :=
  fun _ _ => (.failed "unreachable", [])

/-- A sink that cannot take anything. -/
def fullDisk : Sink :=
  .other "Disk" fun _ _ => some "disk full"

/-- Where neither the notifier nor the sink can be reached, nobody is notified and nothing is
stored, but the scores are the same. -/
theorem scan_scores_unreachable :
    let alone : Scanner := { reader := Script.reader, time := "" }
    ∃ quiet result, (alone.scan (.int 2) twoGroups).1 = .ok quiet ∧
      (Scanner.scan { alone with sink := fullDisk, notifier := unreachable } (.int 2)
        twoGroups).1 = .ok result ∧
      result.reports = quiet.reports ∧ result.system = quiet.system ∧
      quiet.system.affectedUnits = 1 ∧ result.notified = [] ∧ result.persisted = false := by
  intro alone
  have hquiet : ((alone.scan (.int 2) twoGroups).1.map (·.system.affectedUnits)).toOption =
      some 1 := by
    decide +kernel
  have hresult : ((Scanner.scan { alone with sink := fullDisk, notifier := unreachable } (.int 2)
      twoGroups).1.map fun r => (r.notified, r.persisted)).toOption = some ([], false) := by
    decide +kernel
  cases hscan : (alone.scan (.int 2) twoGroups).1 with
  | error cause =>
    rw [hscan] at hquiet
    cases hquiet
  | ok quiet =>
    obtain ⟨result, hok, hreports, hsystem⟩ := scan_scores alone (.int 2) twoGroups hscan
      fullDisk unreachable none true true ""
    rw [hscan] at hquiet
    rw [hok] at hresult
    have haffected := Option.some.inj hquiet
    have htold := Option.some.inj hresult
    exact ⟨quiet, result, rfl, hok, hreports, hsystem, haffected, congrArg Prod.fst htold,
      congrArg Prod.snd htold⟩

end FlowLint
