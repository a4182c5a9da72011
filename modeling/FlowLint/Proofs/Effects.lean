import FlowLint.Proofs.Collaborators
import FlowLint.Proofs.Findings
import FlowLint.Proofs.Totality

/-!
# The effects of a scan

What the collaborators of a scan see of it. A sink that takes one record after the other gets the
units of a group before the group, group after group, and the system at the end, up to the first
call that fails. A notifier gets an alert on each group with findings, whatever it answers.

* `SinkTrace`: the calls that a sink gets of all that are meant for it.
* `Scannable`: detection does not fail on any unit. `gives_evaluate`: then there are scores.
* `scan_effects`: such a scan has exactly the expected effects.
-/

namespace FlowLint

open Scanning

variable {scanner : Scanner} {level : Json} {p : UnitProvider}

/-! ## The calls of a sink -/

/-- The calls on a group: one on each of its units, then one on the group. -/
def groupCalls (g : GroupRecord Number) : List SinkCall :=
  g.units.map (.unit g.groupId) ++ [.group g]

/-- All calls that are meant for a sink: those on each group, and one on the system at the end. -/
def sinkCalls (groups : List (GroupRecord Number)) (system : SystemRecord Number) :
    List SinkCall :=
  groups.flatMap groupCalls ++ [.system system]

section

variable (respond : List SinkCall → SinkCall → Option String)

/-- No call fails when these calls come after some others. -/
def NoneFails (earlier calls : List SinkCall) : Prop :=
  ∀ before call after, calls = before ++ call :: after → respond (earlier ++ before) call = none

/-- What a sink gets of all calls that are meant for it: all of them if none fails, or else the
calls up to the first one that does. -/
structure SinkTrace (all calls : List SinkCall) (persisted : Bool) : Prop where
  complete : NoneFails respond [] all → calls = all
  cut : ∀ before call after, all = before ++ call :: after → NoneFails respond [] before →
    respond before call ≠ none → calls = before ++ [call]
  persisted_iff : persisted = true ↔ NoneFails respond [] all

end

section

variable {respond : List SinkCall → SinkCall → Option String} {calls : List SinkCall}
  {call : SinkCall} {t : ScanTrace}

/-- Calling a sink with one record after the other is calling it with the list of them. -/
theorem take_other (groups : List (GroupRecord Number)) (system : SystemRecord Number)
    (time name : String) :
    Sink.take groups system time (.other name respond) =
      forM (sinkCalls groups system) (callSink respond) := by
  have hsingle (call : SinkCall) : forM [call] (callSink respond) = callSink respond call := by
    rw [List.forM_cons, List.forM_nil]
    exact bind_pure_unit
  have hgroup (g : GroupRecord Number) : forM (groupCalls g) (callSink respond) =
      (forM g.units fun u => callSink respond (.unit g.groupId u)) >>= fun _ =>
        callSink respond (.group g) := by
    unfold groupCalls
    rw [List.forM_append, List.forM_map, hsingle]
  have hgroups : forM (groups.flatMap groupCalls) (callSink respond) =
      forM groups fun g => forM (groupCalls g) (callSink respond) := by
    induction groups with
    | nil => rfl
    | cons g groups ih => rw [List.flatMap_cons, List.forM_append, List.forM_cons, ih]
  unfold sinkCalls Sink.take
  rw [List.forM_append, hsingle, hgroups]
  simp only [hgroup, List.forM_eq_forM]

theorem outcome_callSink (call : SinkCall) (t : ScanTrace) :
    outcome (callSink respond call) t =
      (match respond t.calls call with
        | none => .ok ()
        | some text => .error text,
        { t with calls := t.calls ++ [call] }) := by
  unfold callSink
  rw [outcome_bind, outcome_get]
  dsimp only
  rw [outcome_bind, outcome_modify]
  cases respond t.calls call <;> rfl

/-- Calls of which none fails are all made. -/
theorem outcome_forM_callSink (h : NoneFails respond t.calls calls) :
    outcome (forM calls (callSink respond)) t = (.ok (), { t with calls := t.calls ++ calls }) := by
  induction calls generalizing t with
  | nil =>
    rw [List.append_nil]
    rfl
  | cons call calls ih =>
    have hanswer : respond t.calls call = none := by
      simpa using h [] call calls rfl
    have hrest : NoneFails respond (t.calls ++ [call]) calls := by
      intro before later after hcalls
      simpa using h (call :: before) later after (congrArg (call :: ·) hcalls)
    rw [List.forM_cons, outcome_bind, outcome_callSink, hanswer]
    dsimp only
    rw [ih hrest]
    simp

/-- Calls are made up to the first one that fails. -/
theorem outcome_forM_callSink_of_fails {before after : List SinkCall} {text : String}
    (h : NoneFails respond t.calls before) (hfails : respond (t.calls ++ before) call = some text) :
    outcome (forM (before ++ call :: after) (callSink respond)) t =
      (.error text, { t with calls := t.calls ++ (before ++ [call]) }) := by
  rw [List.forM_append, outcome_bind, outcome_forM_callSink h]
  dsimp only
  rw [List.forM_cons, outcome_bind, outcome_callSink]
  dsimp only
  rw [hfails]
  simp

/-- Calls that are all made do not fail. -/
theorem noneFails_of_ok (h : (outcome (forM calls (callSink respond)) t).1 = .ok ()) :
    NoneFails respond t.calls calls := by
  induction calls generalizing t with
  | nil =>
    intro before later after hnil
    cases before <;> cases hnil
  | cons call calls ih =>
    rw [List.forM_cons, outcome_bind, outcome_callSink] at h
    cases hanswer : respond t.calls call with
    | some text =>
      rw [hanswer] at h
      cases h
    | none =>
      rw [hanswer] at h
      have hrest := ih h
      intro before later after hcalls
      cases before with
      | nil =>
        cases hcalls
        rwa [List.append_nil]
      | cons first before =>
        cases hcalls
        simpa using hrest before later after rfl

/-- Nobody but the sink hears of its calls. -/
theorem outcome_forM_callSink_alerts (calls : List SinkCall) (t : ScanTrace) :
    (outcome (forM calls (callSink respond)) t).2.alerts = t.alerts := by
  induction calls generalizing t with
  | nil => rfl
  | cons call calls ih =>
    rw [List.forM_cons, outcome_bind, outcome_callSink]
    cases respond t.calls call with
    | none => exact ih _
    | some text => rfl

end

section

variable {groups : List (GroupRecord Number)} {system : SystemRecord Number} {t : ScanTrace}

theorem storeRecords_eq (sink : Sink) (time : String) (t : ScanTrace) :
    storeRecords sink groups system time t =
      match outcome (sink.take groups system time) t with
      | (.ok (), t) => (true, t)
      | (.error text, t) =>
        (false, { t with notes := t.notes ++ [unstoredNote sink.name text] }) := by
  unfold storeRecords
  rw [run_recover, outcome_bind]
  generalize outcome (sink.take groups system time) t = o
  obtain ⟨x, t⟩ := o
  cases x <;> rfl

/-- A sink that takes one record after the other gets them until it fails. -/
theorem storeRecords_other {respond : List SinkCall → SinkCall → Option String} (time name : String)
    (hstart : t.calls = []) :
    SinkTrace respond (sinkCalls groups system)
      (storeRecords (.other name respond) groups system time t).2.calls
      (storeRecords (.other name respond) groups system time t).1 := by
  rw [storeRecords_eq, take_other]
  constructor
  case complete =>
    intro hnone
    rw [← hstart] at hnone
    rw [outcome_forM_callSink hnone, hstart]
    rfl
  case cut =>
    intro before call after hcalls hnone hfails
    obtain ⟨text, htext⟩ := Option.ne_none_iff_exists'.mp hfails
    rw [← hstart] at hnone
    have htext' : respond (t.calls ++ before) call = some text := by
      rw [hstart]
      exact htext
    rw [hcalls, outcome_forM_callSink_of_fails hnone htext', hstart]
    rfl
  case persisted_iff =>
    rw [← hstart]
    constructor
    · intro hpersisted
      apply noneFails_of_ok
      generalize outcome (forM (sinkCalls groups system) (callSink respond)) t = o at hpersisted ⊢
      obtain ⟨x, t'⟩ := o
      cases x with
      | ok => rfl
      | error text => cases hpersisted
    · intro hnone
      rw [outcome_forM_callSink hnone]

theorem persistRecords_off {setup : ScanSetup} (h : setup.persist = false ∨ setup.sink = none) :
    persistRecords setup groups system t = (false, t) := by
  unfold persistRecords
  rcases h with h | h
  · rw [h]
    rfl
  · rw [h]
    cases setup.persist <;> rfl

theorem persistRecords_on {setup : ScanSetup} {sink : Sink} (h : setup.persist = true)
    (hsink : setup.sink = some sink) :
    persistRecords setup groups system t = storeRecords sink groups system setup.time t := by
  unfold persistRecords
  rw [h, hsink]

/-- The notifier does not hear of the sink. -/
theorem take_alerts (sink : Sink) (time : String) :
    (outcome (sink.take groups system time) t).2.alerts = t.alerts := by
  cases sink with
  | store s =>
    unfold Sink.take
    dsimp only
    rw [outcome_bind, outcome_modify]
    dsimp only
    split <;> rfl
  | other name respond =>
    rw [take_other]
    exact outcome_forM_callSink_alerts _ t

theorem persistRecords_alerts (setup : ScanSetup) :
    (persistRecords setup groups system t).2.alerts = t.alerts := by
  cases hpersist : setup.persist with
  | false => rw [persistRecords_off (.inl hpersist)]
  | true =>
    cases hsink : setup.sink with
    | none => rw [persistRecords_off (.inr hsink)]
    | some sink =>
      have halerts : (outcome (sink.take groups system setup.time) t).2.alerts = t.alerts :=
        take_alerts sink setup.time
      rw [persistRecords_on hpersist hsink, storeRecords_eq]
      generalize outcome (sink.take groups system setup.time) t = o at halerts ⊢
      obtain ⟨x, t'⟩ := o
      cases x <;> exact halerts

end

/-! ## The effects of a scan -/

/-- Detection does not fail for any unit of a provider: it takes the level and finds something, or
nothing, in every unit. The texts and the lists fit into memory. -/
structure Scannable (d : Detector) (level : Json) (p : UnitProvider) : Prop where
  accepted : ∃ n, clampLevel level = .ok n
  groups : p.groupIds.length < memoryLimit
  units : ∀ g ∈ p.groupIds, (p.units g).length < memoryLimit
  texts : ∀ g ∈ p.groupIds, ∀ u ∈ p.units g, u.text.length < memoryLimit
  detects : ∀ g ∈ p.groupIds, ∀ u ∈ p.units g, ∃ found,
    d.detect (.string u.text) level = .ok found ∧ found.issues.length < memoryLimit

/-- The record of a unit says what detection finds in it. -/
structure UnitRecord.Describes (d : Detector) (level : Json) (u : UnitSource)
    (r : UnitRecord Number) : Prop where
  unitId : r.unitId = u.id
  unitName : r.unitName = u.name
  issues : (d.detect (.string u.text) level).map (·.issues) = .ok r.issues

/-- The record of a group describes its units, in their order. -/
structure GroupRecord.Describes (d : Detector) (level : Json) (p : UnitProvider)
    (g : String) (r : GroupRecord Number) : Prop where
  groupId : r.groupId = g
  groupName : r.groupName = p.groupName g
  units : List.Forall₂ (UnitRecord.Describes d level) (p.units g) r.units

/-- Does a group have a unit with findings? -/
def GroupRecord.hasFindings (r : GroupRecord Number) : Bool :=
  r.units.any fun u => !u.issues.isEmpty

/-- What a scan does: which records it makes, which calls its sink gets and which alerts its
notifier gets. -/
structure ScanEffects (scanner : Scanner) (level : Json) (p : UnitProvider) (result : ScanResult)
    (trace : ScanTrace) : Prop where
  groups : List.Forall₂ (GroupRecord.Describes scanner.detector level p) p.groupIds
    (result.reports.map (·.record))
  system : systemRecord (result.reports.map (·.record)) = Except.ok (ε := Fault) result.system
  calls : ∀ name respond, scanner.sink = some (.other name respond) → scanner.persist = true →
    SinkTrace respond (sinkCalls (result.reports.map (·.record)) result.system) trace.calls
      result.persisted
  noCalls : scanner.persist = false →
    trace.calls = [] ∧ trace.store = scanner.sink.bind Sink.store? ∧ result.persisted = false
  alerts : ∀ send, scanner.notifier = some send → scanner.notify = true →
    trace.alerts = ((result.reports.map (·.record)).filter GroupRecord.hasFindings).map
      (Alert.ofGroup · scanner.instanceUrl) ∧
    result.notified = (acceptedAlerts send trace.alerts).map Alert.groupId
  noAlerts : scanner.notifier = none ∨ scanner.notify = false →
    trace.alerts = [] ∧ result.notified = []

section

variable {n : Int}

/-- Detection takes a level and the level that it is brought to alike. -/
theorem detect_clamped (h : clampLevel level = .ok n) (d : Detector) (text : String) :
    d.detect (.string text) (.int n) = d.detect (.string text) level := by
  have hrange : 1 ≤ n ∧ n ≤ 3 := by
    unfold clampLevel Json.clamped at h
    split at h
    · cases h
      omega
    · cases h
    · cases h
      decide
  unfold Detector.detect
  simp only [clampLevel_of_mem hrange.1 hrange.2, h]

theorem gives_sampleOf {d : Detector} {u : UnitSource} (h : clampLevel level = .ok n)
    (htext : u.text.length < memoryLimit)
    (hdetects : ∃ found, d.detect (.string u.text) level = .ok found ∧
      found.issues.length < memoryLimit) :
    Gives (d.sampleOf (.int n) u) fun s => s.Sized ∧ s.unitId = u.id ∧ s.unitName = u.name ∧
      (d.detect (.string u.text) level).map (·.issues) = .ok s.issues := by
  obtain ⟨found, hfound, hissues⟩ := hdetects
  have hdetect : Gives ((d.detect (.string u.text) (.int n)).mapError ScanError.detection)
      (· = found) := by
    rw [detect_clamped h, hfound]
    exact ⟨found, rfl, rfl⟩
  have hlines := length_splitLines_le u.text.toList
  unfold memoryLimit at htext
  rw [String.length_toList] at hlines
  unfold Detector.sampleOf
  apply Gives.bind hdetect
  rintro _ rfl
  apply Gives.bind (Complexity.gives_ofSource htext).mapError
  intro complexity hcomplexity
  apply Gives.pure
  refine ⟨⟨hissues, Number.within_whole ?_, hcomplexity⟩, rfl, rfl, ?_⟩
  · rw [abs_of_nonneg (by omega)]
    unfold lineCount
    omega
  · rw [hfound]
    rfl

/-- The samples of units are what detection finds, and the records are those of the samples. -/
theorem describes_of_forall₂ {d : Detector} {units : List UnitSource}
    {samples : List (UnitSample Number)} {records : List (UnitRecord Number)}
    (hsamples : List.Forall₂ (fun u s => s.unitId = u.id ∧ s.unitName = u.name ∧
      (d.detect (.string u.text) level).map (·.issues) = .ok s.issues) units samples)
    (hrecords : List.Forall₂ (fun s r => r.unitId = s.unitId ∧ r.unitName = s.unitName ∧
      r.issues = s.issues) samples records) :
    List.Forall₂ (UnitRecord.Describes d level) units records := by
  induction hsamples generalizing records with
  | nil =>
    cases hrecords
    exact .nil
  | cons hsample _ ih =>
    obtain ⟨hid, hname, hissues⟩ := hsample
    cases hrecords with
    | cons hrecord hrest =>
      obtain ⟨hid', hname', hissues'⟩ := hrecord
      refine .cons ⟨hid'.trans hid, hname'.trans hname, ?_⟩ (ih hrest)
      rw [hissues', hissues]

theorem sumOfCounts_natCast {ι : Type} (xs : List ι) (count : ι → Nat) :
    sumOfCounts (xs.map fun x => (count x : Int)) = ((xs.map count).sum : Nat) := by
  induction xs with
  | nil => rfl
  | cons x xs ih =>
    have hsum : sumOfCounts ((x :: xs).map fun x => (count x : Int)) =
        count x + sumOfCounts (xs.map fun x => (count x : Int)) := rfl
    rw [hsum, ih, List.map_cons, List.sum_cons, Nat.cast_add]

/-- Findings are counted, so there are some exactly if a unit has some. -/
theorem sumOfCounts_pos_iff {records : List (UnitRecord Number)} :
    0 < sumOfCounts (records.map fun u => (u.issueCount : Int)) ↔
      records.any (fun u => !u.issues.isEmpty) = true := by
  rw [sumOfCounts_natCast, Int.natCast_pos, List.any_eq_true]
  induction records with
  | nil => simp
  | cons u records ih =>
    rw [List.map_cons, List.sum_cons, Nat.add_pos_iff_pos_or_pos, ih]
    unfold UnitRecord.issueCount
    cases hissues : u.issues <;> simp [hissues]

theorem gives_scanReport (hweights : scanner.weights.Moderate) (h : clampLevel level = .ok n)
    (hscan : Scannable scanner.detector level p) {g : String} (hg : g ∈ p.groupIds) :
    Gives (scanner.scanReport (.int n) p g) fun report => report.record.Sized ∧
      report.record.Describes scanner.detector level p g ∧
      (0 < report.record.totalIssues ↔ report.record.hasFindings = true) := by
  have hsamples := Gives.mapM fun u hu =>
    gives_sampleOf h (hscan.texts g hg u hu) (hscan.detects g hg u hu)
  unfold Scanner.scanReport Scanner.scanGroup
  rw [bind_assoc]
  apply Gives.bind hsamples
  intro samples hsamples
  have hlength : samples.length < memoryLimit := hsamples.length_eq ▸ hscan.units g hg
  have hsized : ∀ s ∈ samples, s.Sized := forall_mem_of_forall₂_right hsamples fun _ _ h => h.1
  apply Gives.bind (gives_groupRecord hweights g (p.groupName g) hlength hsized).mapError
  intro r ⟨hr, hid, hname, hissues, hunits⟩
  apply Gives.mono (gives_groupReport hr).mapError
  rintro report rfl
  refine ⟨hr, ⟨hid, hname, ?_⟩, ?_⟩
  · exact describes_of_forall₂ (hsamples.imp fun _ _ h => h.2) hunits
  · rw [hissues]
    exact sumOfCounts_pos_iff

/-- A scan in which detection does not fail has scores. -/
theorem gives_evaluate (hweights : scanner.weights.Moderate)
    (hscan : Scannable scanner.detector level p) :
    Gives (scanner.evaluate level p) fun scores =>
      List.Forall₂ (fun g report => report.record.Describes scanner.detector level p g ∧
        (0 < report.record.totalIssues ↔ report.record.hasFindings = true)) p.groupIds scores.1 ∧
      systemRecord (scores.1.map (·.record)) = Except.ok (ε := Fault) scores.2 := by
  obtain ⟨n, hlevel⟩ := hscan.accepted
  unfold Scanner.evaluate
  rw [hlevel]
  apply Gives.bind (Q := (· = n)) ⟨n, rfl, rfl⟩
  rintro _ rfl
  apply Gives.bind (Gives.mapM fun g hg => gives_scanReport hweights hlevel hscan hg)
  intro reports hreports
  have hsized : ∀ r ∈ reports.map (·.record), r.Sized := by
    intro r hr
    obtain ⟨report, hreport, rfl⟩ := List.mem_map.mp hr
    exact forall_mem_of_forall₂_right hreports (fun _ _ h => h.1) report hreport
  have hlength : (reports.map (·.record)).length < memoryLimit := by
    rw [List.length_map, ← hreports.length_eq]
    exact hscan.groups
  obtain ⟨system, hsystem, -⟩ := gives_systemRecord hlength hsized
  refine ⟨(reports, system), ?_, hreports.imp fun _ _ h => h.2, hsystem⟩
  rw [hsystem]
  rfl

end

/-- **Effects.** A scan in which detection does not fail gives a result. Whatever its collaborators
do, a sink gets the records group after group up to the first call that fails, and a notifier gets
one alert on each group with findings. -/
theorem scan_effects (hweights : scanner.weights.Moderate)
    (hscan : Scannable scanner.detector level p) :
    ∃ result trace, scanner.scan level p = (.ok result, trace) ∧
      ScanEffects scanner level p result trace := by
  obtain ⟨⟨reports, system⟩, heval, hgroups, hsystem⟩ := gives_evaluate hweights hscan
  have hevaluated := scan_evaluate scanner level p
  rw [heval] at hevaluated
  obtain ⟨done, t, htold, hresult⟩ := hevaluated
  have halerts : (persistRecords scanner.toScanSetup (reports.map (·.record)) system t).2.alerts =
      scanner.alertsOn reports := (persistRecords_alerts scanner.toScanSetup).trans htold.alerts
  refine ⟨_, _, hresult, ?_⟩
  constructor
  case groups => exact List.forall₂_map_right_iff.mpr (hgroups.imp fun _ _ h => h.1)
  case system => exact hsystem
  case calls =>
    intro name respond hsink hpersist
    rw [persistRecords_on hpersist hsink]
    exact storeRecords_other scanner.time name htold.calls
  case noCalls =>
    intro hpersist
    rw [persistRecords_off (.inl hpersist)]
    exact ⟨htold.calls, htold.store, rfl⟩
  case alerts =>
    intro send hsend hnotify
    have hfindings : reports.filter (fun r => 0 < r.record.totalIssues) =
        reports.filter fun r => r.record.hasFindings := by
      apply List.filter_congr
      intro report hreport
      rw [Bool.eq_iff_iff, decide_eq_true_iff]
      exact forall_mem_of_forall₂_right hgroups (fun _ _ h => h.2) report hreport
    have htell : scanner.alertsOn reports =
        ((reports.map (·.record)).filter GroupRecord.hasFindings).map
          (Alert.ofGroup · scanner.instanceUrl) := by
      unfold ScanSetup.alertsOn ScanSetup.alertedReports
      rw [hsend, hnotify]
      dsimp only
      rw [if_pos rfl, hfindings, List.filter_map, List.map_map]
      rfl
    refine ⟨halerts.trans htell, ?_⟩
    rw [halerts, htold.notified]
    unfold ScanSetup.notifiedOf
    rw [hsend]
  case noAlerts =>
    intro hnobody
    have hnone : scanner.alertsOn reports = [] := by
      unfold ScanSetup.alertsOn ScanSetup.alertedReports
      rcases hnobody with h | h
      · rw [h]
      · cases scanner.notifier <;> simp [h]
    refine ⟨halerts.trans hnone, ?_⟩
    rw [htold.notified]
    unfold ScanSetup.notifiedOf
    cases scanner.notifier with
    | none => rfl
    | some send =>
      rw [hnone]
      rfl

theorem scannable_twoGroups : Scannable { reader := Script.reader } (.int 2) twoGroups := by
  let d : Detector := { reader := Script.reader }
  have hfound (count : Nat) {text : String} (hcount : count < memoryLimit)
      (h : ((d.detect (.string text) (.int 2)).map (·.issues.length)).toOption = some count) :
      ∃ found, d.detect (.string text) (.int 2) = .ok found ∧
        found.issues.length < memoryLimit := by
    cases hdetect : d.detect (.string text) (.int 2) with
    | error e =>
      rw [hdetect] at h
      cases h
    | ok found =>
      rw [hdetect] at h
      exact ⟨found, rfl, (Option.some.inj h).trans_lt hcount⟩
  have hgroups {q : String → UnitSource → Prop}
      (ha : q "a" { id := "u", name := "first", text := "debugger;" })
      (hb : q "b" { id := "v", name := "second", text := "f();" }) :
      ∀ g ∈ twoGroups.groupIds, ∀ u ∈ twoGroups.units g, q g u := by
    have hfirst : ∀ u ∈ twoGroups.units "a", q "a" u := List.forall_mem_singleton.mpr ha
    have hsecond : ∀ u ∈ twoGroups.units "b", q "b" u := List.forall_mem_singleton.mpr hb
    exact List.forall_mem_cons.mpr ⟨hfirst, List.forall_mem_singleton.mpr hsecond⟩
  refine ⟨⟨2, rfl⟩, by decide, ?_, ?_, ?_⟩
  · exact List.forall_mem_cons.mpr ⟨by decide, List.forall_mem_singleton.mpr (by decide)⟩
  · exact hgroups (by decide) (by decide)
  · apply hgroups
    · exact hfound 1 (by decide) (by decide +kernel)
    · exact hfound 0 (by decide) (by decide +kernel)

/-- A sink that fails at its second call gets no third one, and the alert on the only group with
findings is sent before. -/
theorem scan_effects_full_disk :
    let respond : List SinkCall → SinkCall → Option String :=
      fun earlier _ => if earlier.length = 1 then some "disk full" else none
    let scanner : Scanner :=
      { reader := Script.reader, sink := some (.other "Disk" respond),
        notifier := some fun _ _ => (.accepted, []), time := "" }
    scanner.weights.Moderate ∧ Scannable scanner.detector (.int 2) twoGroups ∧
      ∃ result trace, scanner.scan (.int 2) twoGroups = (.ok result, trace) ∧
        ScanEffects scanner (.int 2) twoGroups result trace ∧
        trace.calls.length = 2 ∧ result.persisted = false ∧
        trace.alerts.map Alert.groupId = ["a"] ∧ result.notified = ["a"] := by
  intro respond scanner
  have hall : ∃ result trace, scanner.scan (.int 2) twoGroups = (.ok result, trace) ∧
      ScanEffects scanner (.int 2) twoGroups result trace :=
    scan_effects Weights.moderate_standard scannable_twoGroups
  obtain ⟨result, trace, hscan, heffects⟩ := hall
  have hseen : ((scanner.scan (.int 2) twoGroups).1.map fun r =>
        (r.persisted, r.notified)).toOption = some (false, ["a"]) ∧
      (scanner.scan (.int 2) twoGroups).2.calls.length = 2 ∧
      (scanner.scan (.int 2) twoGroups).2.alerts.map Alert.groupId = ["a"] := by
    decide +kernel
  rw [hscan] at hseen
  obtain ⟨hresult, hcalls, halerts⟩ := hseen
  have hresult' := Option.some.inj hresult
  exact ⟨Weights.moderate_standard, scannable_twoGroups, result, trace, hscan, heffects, hcalls,
    congrArg Prod.fst hresult', halerts, congrArg Prod.snd hresult'⟩

end FlowLint
