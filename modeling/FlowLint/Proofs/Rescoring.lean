import FlowLint.Proofs.Decoding

/-!
# The service scores its own answers

A scan and a check come to their scores on one way, the handlers for scoring on another: from the
parts of a request. Here both ways are compared. What the service answers to a scan or a check can
be handed in to be scored, and the answer says the same again.

* `UnitSample.Detected`: what is known of a unit whose text was looked at.
* `GroupReport.Repeatable`: a report that is made again from the records of its units.
* `Decoding.postGroup_eq`, `Decoding.postSystem_eq`, `Decoding.postUnit_eq`: one for each handler.
* `Service.rescoring_reproduces`: all of them, for any surroundings of the service and any decoding
  that takes fields over as they are.
-/

namespace FlowLint

open Script (bind_eq_ok mapError_eq_ok mapM_eq_ok_iff)

/-! ## What was detected -/

/-- A whole number from one on. -/
def Json.isPositive : Json → Bool
  | .int n => 1 ≤ n
  | _ => false

/-- All issues of a list end on a line and in a column that count from one on. -/
def EndsCounted (issues : Json) : Prop :=
  ∀ i ∈ issues.items, (i.field "end_line").isPositive ∧ (i.field "end_column").isPositive

instance (issues : Json) : Decidable (EndsCounted issues) :=
  inferInstanceAs (Decidable (∀ i ∈ issues.items, _ ∧ _))

theorem EndsCounted.of_mem {issues : List Issue}
    (h : EndsCounted (.array (issues.map Issue.toJson))) {i : Issue} (hi : i ∈ issues) :
    1 ≤ i.endLine ∧ 1 ≤ i.endColumn := by
  obtain ⟨hline, hcolumn⟩ := h i.toJson (List.mem_map_of_mem hi)
  exact ⟨of_decide_eq_true hline, of_decide_eq_true hcolumn⟩

/-- A sample of a unit whose text was looked at. -/
structure UnitSample.Detected (s : UnitSample Number) : Prop where
  message : ∀ i ∈ s.issues, ∃ text, i.message = .string text
  linesOfCode : ∃ n : Int, s.linesOfCode = .int n ∧ 0 ≤ n
  complexity : ∃ x : Binary64, s.complexity = .float x ∧ x.NonNeg
  complexity_plain : s.complexity.IsPlain

/-- The complexity of a source is rounded at the end. -/
theorem Complexity.isPlain_of_ofSource {source : Json} {z : Number}
    (h : ofSource source = Except.ok (ε := Fault) z) : z.IsPlain := by
  have hnone (h : Except.ok (ε := Fault) (decimal 0 : Number) = .ok z) : z.IsPlain := by
    cases h
    exact ⟨0, congrArg Number.float Binary64.ofRat_zero, Binary64.ofRat_zero⟩
  cases source with
  | string text =>
    rw [ofSource] at h
    split at h
    · exact hnone h
    · obtain ⟨lines, -, h⟩ := bind_eq_ok.mp h
      obtain ⟨branches, -, h⟩ := bind_eq_ok.mp h
      obtain ⟨nested, -, h⟩ := bind_eq_ok.mp h
      obtain ⟨total, -, h⟩ := bind_eq_ok.mp h
      exact Number.isPlain_roundHalfUp h
  | _ => exact hnone h

section

variable {d : Detector} {weights : Weights Number} {level : Json} {text : String}
  {unitId unitName : String}

theorem detected_of_detect {found : Detection} {complexity : Number} (lines : Nat)
    (hfound : d.detect (.string text) level = .ok found)
    (hcomplexity : Complexity.ofSource (.string text) = Except.ok (ε := Fault) complexity) :
    UnitSample.Detected
      { issues := found.issues, linesOfCode := .int lines, complexity, unitId, unitName } where
  message := exists_message_of_detect hfound
  linesOfCode := ⟨lines, rfl, Int.natCast_nonneg lines⟩
  complexity := Complexity.nonNeg_of_ofSource hcomplexity
  complexity_plain := Complexity.isPlain_of_ofSource hcomplexity

theorem detected_of_sampleOf {unit : UnitSource} {s : UnitSample Number}
    (h : d.sampleOf level unit = .ok s) : s.Detected := by
  obtain ⟨found, hfound, h⟩ := bind_eq_ok.mp h
  obtain ⟨complexity, hcomplexity, h⟩ := bind_eq_ok.mp h
  cases h
  exact detected_of_detect _ (mapError_eq_ok.mp hfound) (mapError_eq_ok.mp hcomplexity)

theorem detected_of_recordOf {r : UnitRecord Number} {notes : List LogEntry}
    (h : d.recordOf weights (.string text) level unitId unitName = .ok (r, notes)) :
    r.sample.Detected ∧ unitRecord weights r.sample = Except.ok (ε := Fault) r := by
  obtain ⟨found, hfound, h⟩ := bind_eq_ok.mp h
  obtain ⟨complexity, hcomplexity, h⟩ := bind_eq_ok.mp h
  obtain ⟨record, hrecord, h⟩ := bind_eq_ok.mp h
  cases h
  have hrecord := mapError_eq_ok.mp hrecord
  rw [sample_of_unitRecord hrecord]
  exact ⟨detected_of_detect _ (mapError_eq_ok.mp hfound) (mapError_eq_ok.mp hcomplexity), hrecord⟩

end

/-- The record of a unit whose text was looked at is read from a request as it was written. -/
theorem UnitSample.Detected.reusable {r : UnitRecord Number} (h : r.sample.Detected)
    (hends : EndsCounted (.array (r.issues.map Issue.toJson))) : r.Reusable where
  issues i hi := ⟨h.message i hi, (hends.of_mem hi).1, (hends.of_mem hi).2⟩
  linesOfCode := h.linesOfCode
  complexityScore := h.complexity
  complexity_plain := h.complexity_plain

/-! ## Groups -/

/-- A report on a group that is made again from what the records of its units were made from. -/
structure GroupReport.Repeatable (report : GroupReport Number) : Prop where
  detected : ∀ u ∈ report.record.units, u.sample.Detected
  record : groupRecord (Weights.standard : Weights Number) report.record.groupId
    report.record.groupName (report.record.units.map UnitRecord.sample) =
      Except.ok (ε := Fault) report.record
  report : groupReport report.record = .ok report

/-- A scan makes reports that can be made again, with records that can be read again. -/
theorem repeatable_of_scanReport {scanner : Scanner} {level : Json} {p : UnitProvider} {g : String}
    {report : GroupReport Number} (hweights : scanner.weights = Weights.standard)
    (h : scanner.scanReport level p g = .ok report) :
    report.Repeatable ∧ report.record.Reusable := by
  have hplain := (plain_of_scanReport h).2
  obtain ⟨r, hr, h⟩ := bind_eq_ok.mp h
  obtain ⟨samples, hsamples, hr⟩ := bind_eq_ok.mp hr
  have hreport := mapError_eq_ok.mp h
  have hrecord := mapError_eq_ok.mp hr
  obtain rfl := record_of_groupReport hreport
  obtain ⟨records, hrecords, hof⟩ := bind_eq_ok.mp hrecord
  have hmade := madeOf_of_groupRecordOf hof
  obtain rfl := hmade.units
  obtain rfl := samples_of_unitRecords hrecords
  have hdetected := forall_mem_of_forall₂_right (mapM_eq_ok_iff.mp hsamples)
    fun _ _ => detected_of_sampleOf
  refine ⟨⟨fun u hu => hdetected _ (List.mem_map_of_mem hu), ?_, hreport⟩,
    ⟨_, hmade.distinctKinds.trans List.map_map.symm⟩, hplain⟩
  rw [hmade.groupId, hmade.groupName, ← hweights]
  exact hrecord

/-! ## Scans -/

/-- The reports of a scan can be made again, and so can the record of the system. -/
theorem repeatable_of_scan {scanner : Scanner} {level : Json} {p : UnitProvider}
    {result : ScanResult} (hweights : scanner.weights = Weights.standard)
    (h : (scanner.scan level p).1 = .ok result) :
    (∀ report ∈ result.reports, report.Repeatable ∧ report.record.Reusable) ∧
      systemRecord (result.reports.map (·.record)) = Except.ok (ε := Fault) result.system := by
  have hscores := evaluate_of_scan h
  refine ⟨?_, (records_of_evaluate hscores).2.2⟩
  obtain ⟨n, -, hscores⟩ := bind_eq_ok.mp hscores
  obtain ⟨reports, hreports, hscores⟩ := bind_eq_ok.mp hscores
  obtain ⟨system, -, hscores⟩ := bind_eq_ok.mp hscores
  cases hscores
  exact forall_mem_of_forall₂_right (mapM_eq_ok_iff.mp hreports)
    fun _ _ => repeatable_of_scanReport hweights

namespace Service

/-! ## Groups -/

theorem scoreGroup_eq {r : GroupScoreRequest} {samples : List (UnitSample Number)}
    {record : GroupRecord Number} {report : GroupReport Number}
    (hsamples : r.units.mapM UnitInput.toSample = .ok samples)
    (hrecord : groupRecord (Weights.standard : Weights Number) r.groupId r.groupName samples =
      Except.ok (ε := Fault) record)
    (hreport : groupReport record = .ok report) : scoreGroup r = ⟨200, report.toJson⟩ := by
  rw [scoreGroup, hsamples]
  dsimp only [bind, Except.bind]
  rw [hrecord]
  dsimp only
  rw [hreport]
  rfl

/-! ## Systems -/

/-- The groups of an answer to a scan as a request to score the system. -/
def systemRequest (scanned : Json) : Json :=
  .object [("groups", scanned.field "groups")]

theorem scoreSystem_eq {r : SystemScoreRequest} {groups : List (GroupRecord Number)}
    {system : SystemRecord Number} (hgroups : r.groups.mapM GroupInput.toRecord = .ok groups)
    (h : systemRecord groups = Except.ok (ε := Fault) system) :
    scoreSystem r = ⟨200, system.toJson⟩ := by
  rw [scoreSystem, hgroups]
  dsimp only [bind, Except.bind]
  rw [h]

/-! ## Units -/

/-- The answer to a check as a request to score the unit. -/
def unitRequest (checked : Json) : Json :=
  .object [
    ("issues", checked.field "issues"),
    ("lines_of_code", (checked.field "quality").field "lines_of_code")]

/-- What the answer to a check says about the score of the unit. -/
def unitAnswer (checked : Json) : Json :=
  .object [
    ("quality_score", (checked.field "quality").field "quality_score"),
    ("has_critical_issue", (checked.field "quality").field "has_critical_issue"),
    ("grade", (checked.field "quality").field "grade")]

theorem scoreUnit_eq {r : UnitScoreRequest} {u : UnitRecord Number}
    (hissues : r.issues.mapM IssueInput.toIssue = .ok u.issues)
    (hlines : u.linesOfCode = .int r.linesOfCode)
    (h : unitRecord (Weights.standard : Weights Number) u.sample = Except.ok (ε := Fault) u) :
    scoreUnit r = ⟨200, .object [
      ("quality_score", u.qualityScore.toJson),
      ("has_critical_issue", .bool u.hasCriticalIssue),
      ("grade", .string (Grade.ofScore u.qualityScore).letter)]⟩ := by
  obtain ⟨score, hscore, h⟩ := bind_eq_ok.mp h
  have hquality : score = u.qualityScore := congrArg UnitRecord.qualityScore (Except.ok.inj h)
  have hcritical : (u.issues.any fun i => i.kind.isCritical) = u.hasCriticalIssue :=
    congrArg UnitRecord.hasCriticalIssue (Except.ok.inj h)
  dsimp only [UnitRecord.sample] at hscore
  rw [hlines, hquality] at hscore
  rw [scoreUnit, hissues]
  dsimp only [bind, Except.bind]
  rw [hscore]
  dsimp only
  rw [hcritical]
  rfl

end Service

/-! ## What is posted -/

namespace Decoding

open Service

variable {d : Decoding} (hd : d.CarriesFields)

include hd

/-- A report that can be made again is the answer when its group is handed in. -/
theorem postGroup_eq {report : GroupReport Number} (h : report.Repeatable)
    (hends : ∀ u ∈ report.record.units, EndsCounted (.array (u.issues.map Issue.toJson))) :
    d.postGroup report.toJson.asGroup = ⟨200, report.toJson⟩ := by
  obtain ⟨units, hheld, hsamples⟩ :=
    GroupReport.exists_request fun u hu => (h.detected u hu).reusable (hends u hu)
  rw [postGroup, hd.group _ _ hheld]
  exact scoreGroup_eq hsamples h.record h.report

/-- The record of a system is the answer when the reports on its groups are handed in. -/
theorem postSystem_eq {reports : List (GroupReport Number)} {system : SystemRecord Number}
    (hreusable : ∀ report ∈ reports, report.record.Reusable)
    (h : systemRecord (reports.map (·.record)) = Except.ok (ε := Fault) system) :
    d.postSystem (.object [("groups", .array (reports.map GroupReport.toJson))]) =
      ⟨200, system.toJson⟩ := by
  obtain ⟨groups, hheld, hrecords⟩ := exists_parts fun report hreport =>
    (hreusable report hreport).exists_input
  have hmap : (reports.map (·.record)).map GroupRecord.withoutUnits =
      reports.map fun report => report.record.withoutUnits := List.map_map
  rw [postSystem, hd.system ⟨groups⟩ _ ⟨_, rfl, hheld⟩]
  refine scoreSystem_eq hrecords ?_
  rw [← hmap, systemRecord_withoutUnits, h]

/-- The score of a unit is the answer when what was found in it is handed in. -/
theorem postUnit_eq {r : CheckRequest} {u : UnitRecord Number} (hdetected : u.sample.Detected)
    (h : unitRecord (Weights.standard : Weights Number) u.sample = Except.ok (ε := Fault) u)
    (hends : EndsCounted (.array (u.issues.map Issue.toJson))) :
    d.postUnit (unitRequest (checkBody r u)) = ⟨200, unitAnswer (checkBody r u)⟩ := by
  have hreusable := hdetected.reusable hends
  obtain ⟨n, hlines, hn⟩ := hreusable.linesOfCode
  obtain ⟨inputs, hinputs, hvalues⟩ := Issue.exists_inputs hreusable.issues
  have hheld : UnitScoreRequest.HeldBy ⟨inputs, n⟩ (unitRequest (checkBody r u)) :=
    ⟨⟨_, rfl, hinputs⟩, congrArg (some <| Number.toJson ·) hlines, hn⟩
  rw [postUnit, hd.unit _ _ hheld]
  exact scoreUnit_eq hvalues hlines h

end Decoding

namespace Service

/-! ## Answers to scans and checks -/

theorem loadExport_error {s : Surroundings} {r : ScanRequest} {response : Response}
    (h : loadExport s r = .error response) : response.status ≠ 200 := by
  unfold loadExport readExport unreadableExport at h
  grind [Response.detail]

theorem storeResponse_status (e : StoreError) : (storeResponse e).status ≠ 200 := by
  cases e <;> simp [storeResponse, Response.failure, Response.detail]

theorem exists_result_of_scanExport {s : Surroundings} {store : Option Store} {r : ScanRequest}
    {e : FlowExport} {body : Json} (h : (scanExport s store r e).response = ⟨200, body⟩) :
    ∃ result, ((scanner s r store).scan (levelOf s r.detectionLevel) e).1 = .ok result ∧
      body = result.toJson := by
  unfold scanExport at h
  dsimp only at h
  split at h
  · cases h
  · refine ⟨_, ‹_›, ?_⟩
    split at h
    · cases h
      rfl
    · cases h
      rfl

/-- A scan that is answered was made of some export, with some store. -/
theorem exists_result_of_runScan {s : Surroundings} {store : Option Store} {r : ScanRequest}
    {body : Json} (h : (runScan s store r).response = ⟨200, body⟩) :
    ∃ store e result,
      ((scanner s r store).scan (levelOf s r.detectionLevel) e).1 = .ok result ∧
        body = result.toJson := by
  unfold runScan at h
  split at h
  · exact absurd (congrArg Response.status h) (loadExport_error ‹_›)
  · split at h
    · exact ⟨_, _, exists_result_of_scanExport h⟩
    · split at h
      · exact absurd (congrArg Response.status h) (storeResponse_status _)
      · exact ⟨_, _, exists_result_of_scanExport h⟩

theorem exists_record_of_check {s : Surroundings} {r : CheckRequest} {body : Json}
    (h : (check s r).1 = ⟨200, body⟩) :
    ∃ u notes, (detector s).recordOf Weights.standard (.string r.code) (levelOf s r.detectionLevel)
      "" r.unitName = .ok (u, notes) ∧ body = checkBody r u := by
  unfold check at h
  split at h
  · cases h
  · cases h
    exact ⟨_, _, ‹_›, rfl⟩

/-- **Rescoring.** Whatever the service answers to a scan or a check, it says again when it is asked
to score it, if decoding takes the fields over as they are. If the issues of a group of a scan end
on lines and in columns from one on, the group is answered as it was. The groups are answered with
the record of the system. If the issues of a check end so, they are answered with the score, the
grade and the mark of a critical issue. -/
theorem rescoring_reproduces {d : Decoding} (hd : d.CarriesFields) (s : Surroundings)
    (store : Option Store) (body : Json) :
    (∀ r : ScanRequest, (runScan s store r).response = ⟨200, body⟩ →
      (∀ group ∈ (body.field "groups").items,
        (∀ unit ∈ (group.field "unit_records").items, EndsCounted (unit.field "issues")) →
        d.postGroup group.asGroup = ⟨200, group⟩) ∧
      d.postSystem (systemRequest body) = ⟨200, body.field "system"⟩) ∧
    ∀ r : CheckRequest, (check s r).1 = ⟨200, body⟩ → EndsCounted (body.field "issues") →
      d.postUnit (unitRequest body) = ⟨200, unitAnswer body⟩ := by
  constructor
  · intro r hr
    obtain ⟨store, e, result, hscan, rfl⟩ := exists_result_of_runScan hr
    obtain ⟨hreports, hsystem⟩ := repeatable_of_scan rfl hscan
    refine ⟨fun group hgroup hends => ?_,
      Decoding.postSystem_eq hd (fun report hreport => (hreports report hreport).2) hsystem⟩
    obtain ⟨report, hreport, rfl⟩ := List.mem_map.mp hgroup
    exact Decoding.postGroup_eq hd (hreports report hreport).1 fun u hu =>
      hends u.toJson (List.mem_map_of_mem hu)
  · intro r hr hends
    obtain ⟨u, notes, hrecord, rfl⟩ := exists_record_of_check hr
    obtain ⟨hdetected, hunit⟩ := detected_of_recordOf hrecord
    exact Decoding.postUnit_eq hd hdetected hunit hends

/-- A service on its own: it keeps no records and sends its alerts to nobody. -/
def alone : Surroundings where
  settings := .ofEnvironment [("METRICS_DB_PATH", "")]
  reader := Script.reader
  exportAt _ := .missing
  openStore _ := .ok ()
  delivery := .delivered
  time := ""

/-- A flow with a breakpoint in its only unit. -/
def flowItems : List Json :=
  [.object [("type", .string "tab"), ("id", .string "f"), ("label", .string "Flow")],
    .object [("type", .string "function"), ("id", .string "n"), ("z", .string "f"),
      ("name", .string "Node"), ("func", .string "debugger;")]]

/-- The scan of the flow, and the check of the breakpoint alone, handed in as the program decodes
it. -/
theorem rescoring_reproduces_breakpoint :
    decoding.CarriesFields ∧
    (∃ body group, (runScan alone none { flows := some flowItems }).response = ⟨200, body⟩ ∧
      (body.field "groups").items = [group] ∧
      (∀ unit ∈ (group.field "unit_records").items, EndsCounted (unit.field "issues")) ∧
      decoding.postGroup group.asGroup = ⟨200, group⟩ ∧
      decoding.postSystem (systemRequest body) = ⟨200, body.field "system"⟩) ∧
    ∃ body, (check alone { code := "debugger;" }).1 = ⟨200, body⟩ ∧
      EndsCounted (body.field "issues") ∧ (body.field "issues").items.length = 1 ∧
      decoding.postUnit (unitRequest body) = ⟨200, unitAnswer body⟩ := by
  have hstatus : ∀ r : Response, r.status = 200 → r = ⟨200, r.body⟩ := by
    rintro ⟨status, body⟩ rfl
    rfl
  refine ⟨decoding_carriesFields, ?_, ?_⟩
  · let scanned := (runScan alone none { flows := some flowItems }).response
    have hscanned : scanned.status = 200 ∧ (scanned.body.field "groups").items.length = 1 ∧
        ∀ group ∈ (scanned.body.field "groups").items,
          ∀ unit ∈ (group.field "unit_records").items, EndsCounted (unit.field "issues") := by
      decide +kernel
    obtain ⟨hscan, hone, hends⟩ := hscanned
    obtain ⟨group, hgroup⟩ := List.length_eq_one_iff.mp hone
    have hmem : group ∈ (scanned.body.field "groups").items := by
      rw [hgroup]
      exact List.mem_singleton.mpr rfl
    obtain ⟨hgroups, hsystem⟩ := (rescoring_reproduces decoding_carriesFields alone none
      scanned.body).1 _ (hstatus scanned hscan)
    exact ⟨scanned.body, group, hstatus scanned hscan, hgroup, hends group hmem,
      hgroups group hmem (hends group hmem), hsystem⟩
  · let checked := (check alone { code := "debugger;" }).1
    have hchecked : checked.status = 200 ∧ EndsCounted (checked.body.field "issues") ∧
        (checked.body.field "issues").items.length = 1 := by
      decide +kernel
    obtain ⟨hcheck, hends, hone⟩ := hchecked
    exact ⟨checked.body, hstatus checked hcheck, hends, hone,
      (rescoring_reproduces decoding_carriesFields alone none checked.body).2 _
        (hstatus checked hcheck) hends⟩

end Service

end FlowLint
