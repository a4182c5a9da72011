import FlowLint.Proofs.Consistency
import FlowLint.Proofs.Rules
import FlowLint.Proofs.Signs
import FlowLint.Service.Handler

/-!
# Answers that are handed in again

What the service writes into an answer it can take from a request. Here this is shown part by part,
with the conditions under which nothing is lost.

* `IssueInput.HeldBy`, `UnitInput.HeldBy` and so on: an object has the fields of a request, each of
  its own kind. `Decoding.CarriesFields`: such an object is decoded as the request.
* `Issue.ofJson_toJson`: an issue is read from its object as it was written.
* `Issue.Reusable`: an issue for which a request is as good as its object. The rules make no others,
  as far as messages go.
* `UnitRecord.Reusable` and `GroupRecord.Reusable`: the same for the records of units and groups.
-/

namespace FlowLint

open Script (bind_eq_ok mapError_eq_ok mapM_eq_ok_iff)

/-! ## Fields of requests -/

/-- A member of an object is a list whose items hold some parts, one by one. -/
def Json.HoldsEach {α : Type} (j : Json) (key : String) (holds : α → Json → Prop)
    (parts : List α) : Prop :=
  ∃ items, j.get? key = some (.array items) ∧ List.Forall₂ holds parts items

/-- An object has the fields of a finding. -/
structure IssueInput.HeldBy (i : IssueInput) (j : Json) : Prop where
  kind : j.get? "kind" = some (.string i.kind)
  variant : j.get? "variant" = some (optionJson .string i.variant)
  message : j.get? "message" = some (.string i.message)
  severity : j.get? "severity" = some (optionJson .string i.severity)
  line : j.get? "line" = some (.int i.line)
  column : j.get? "column" = some (.int i.column)
  endLine : j.get? "end_line" = some (optionJson .int i.endLine)
  endColumn : j.get? "end_column" = some (optionJson .int i.endColumn)

/-- An object has the fields of a request to score a unit. -/
structure UnitScoreRequest.HeldBy (r : UnitScoreRequest) (j : Json) : Prop where
  issues : j.HoldsEach "issues" IssueInput.HeldBy r.issues
  linesOfCode : j.get? "lines_of_code" = some (.int r.linesOfCode)
  lines_nonneg : 0 ≤ r.linesOfCode

/-- An object has the fields of a unit. -/
structure UnitInput.HeldBy (u : UnitInput) (j : Json) : Prop where
  issues : j.HoldsEach "issues" IssueInput.HeldBy u.issues
  linesOfCode : j.get? "lines_of_code" = some (.int u.linesOfCode)
  lines_nonneg : 0 ≤ u.linesOfCode
  complexity : j.get? "complexity" = some (.float u.complexity)
  complexity_plain : (Number.float u.complexity).IsPlain
  complexity_nonneg : u.complexity.NonNeg
  unitId : j.get? "unit_id" = some (.string u.unitId)
  unitName : j.get? "unit_name" = some (.string u.unitName)

/-- An object has the fields of a request to score a group. -/
structure GroupScoreRequest.HeldBy (r : GroupScoreRequest) (j : Json) : Prop where
  units : j.HoldsEach "units" UnitInput.HeldBy r.units
  groupId : j.get? "group_id" = some (.string r.groupId)
  groupName : j.get? "group_name" = some (.string r.groupName)

/-- An object has the fields of the record of a group. -/
structure GroupInput.HeldBy (g : GroupInput) (j : Json) : Prop where
  groupId : j.get? "group_id" = some (.string g.groupId)
  groupName : j.get? "group_name" = some (.string g.groupName)
  totalIssues : j.get? "total_issues" = some (.int g.totalIssues)
  unitsWithIssues : j.get? "units_with_issues" = some (.int g.unitsWithIssues)
  unitsWithCriticalIssues :
    j.get? "units_with_critical_issues" = some (.int g.unitsWithCriticalIssues)
  totalUnits : j.get? "total_units" = some (.int g.totalUnits)
  distinctKinds : j.get? "distinct_issue_kinds" = some (.array (g.distinctKinds.map Json.string))
  qualityScore : j.get? "quality_score" = some (.float g.qualityScore)
  quality_plain : (Number.float g.qualityScore).IsPlain
  complexityScore : j.get? "complexity_score" = some (.float g.complexityScore)
  complexity_plain : (Number.float g.complexityScore).IsPlain

/-- An object has the fields of a request to score a system. -/
def SystemScoreRequest.HeldBy (r : SystemScoreRequest) (j : Json) : Prop :=
  j.HoldsEach "groups" GroupInput.HeldBy r.groups

/-- Decoding takes the fields of an object over as they are, whatever else the object has. -/
structure Decoding.CarriesFields (d : Decoding) : Prop where
  unit : ∀ (r : UnitScoreRequest) (j : Json), r.HeldBy j → d.unit j = .ok r
  group : ∀ (r : GroupScoreRequest) (j : Json), r.HeldBy j → d.group j = .ok r
  system : ∀ (r : SystemScoreRequest) (j : Json), r.HeldBy j → d.system j = .ok r

/-- If each item of a list holds a part that stands for something, then all items hold parts that
stand for all of it. -/
theorem exists_parts {α β γ ε : Type} {holds : α → Json → Prop} {f : β → Json}
    {g : α → Except ε γ} {h : β → γ} {xs : List β}
    (heach : ∀ x ∈ xs, ∃ a, holds a (f x) ∧ g a = .ok (h x)) :
    ∃ parts, List.Forall₂ holds parts (xs.map f) ∧ parts.mapM g = .ok (xs.map h) := by
  induction xs with
  | nil => exact ⟨[], .nil, rfl⟩
  | cons x xs ih =>
    obtain ⟨hx, hxs⟩ := List.forall_mem_cons.mp heach
    obtain ⟨a, hheld, hvalue⟩ := hx
    obtain ⟨parts, hall, hvalues⟩ := ih hxs
    refine ⟨a :: parts, .cons hheld hall, ?_⟩
    rw [List.mapM_cons, hvalue, hvalues]
    rfl

/-! ## Words -/

theorem IssueKind.ofJson_name (kind : IssueKind) : ofJson (.string kind.name) = .ok kind := by
  cases kind <;> rfl

theorem Severity.ofJson_name (severity : Severity) :
    ofJson (.string severity.name) = .ok severity := by
  cases severity <;> rfl

/-! ## Issues -/

/-- An issue that is read from a request as it was written into an answer. -/
structure Issue.Reusable (i : Issue) : Prop where
  message : ∃ text, i.message = .string text
  endLine : 1 ≤ i.endLine
  endColumn : 1 ≤ i.endColumn

/-- A whole number that is not zero counts as given. -/
theorem Issue.wholeMemberOr_eq {data : Json} {key : String} {n fallback : Int}
    (hdata : data.field key = .int n) (hn : n ≠ 0) : wholeMemberOr data key fallback = .ok n := by
  have htruthy : (Json.int n).truthy = true := by simpa [Json.truthy] using hn
  rw [wholeMemberOr, hdata, if_pos htruthy]
  rfl

/-- An issue is read as it was written, if it ends on a line and in a column that count as given. -/
theorem Issue.ofJson_toJson {i : Issue} (hline : i.endLine ≠ 0) (hcolumn : i.endColumn ≠ 0) :
    ofJson i.toJson = .ok i := by
  obtain ⟨kind, message, ⟨⟨line, column⟩, ⟨endLine, endColumn⟩⟩, severity, variant⟩ := i
  have hgiven : (Json.string severity.name).truthy = true := by cases severity <;> rfl
  refine bind_eq_ok.mpr ⟨kind, kind.ofJson_name, bind_eq_ok.mpr ⟨line, rfl, bind_eq_ok.mpr
    ⟨column, rfl, bind_eq_ok.mpr ⟨endLine, wholeMemberOr_eq rfl hline, bind_eq_ok.mpr
      ⟨endColumn, wholeMemberOr_eq rfl hcolumn, ?_⟩⟩⟩⟩⟩
  refine (if_pos hgiven).trans (bind_eq_ok.mpr ⟨severity, severity.ofJson_name, ?_⟩)
  cases variant with
  | none => rfl
  | some placeholder => cases placeholder <;> rfl

/-- The object of an issue holds an input that gives the issue, if its message is a text. -/
theorem Issue.Reusable.exists_input {i : Issue} (h : i.Reusable) :
    ∃ input : IssueInput, input.HeldBy i.toJson ∧ input.toIssue = .ok i := by
  obtain ⟨⟨text, htext⟩, hline, hcolumn⟩ := h
  have hread : ofJson i.toJson = .ok i :=
    ofJson_toJson (Int.ne_of_gt hline) (Int.ne_of_gt hcolumn)
  obtain ⟨kind, message, ⟨⟨line, column⟩, ⟨endLine, endColumn⟩⟩, severity, variant⟩ := i
  dsimp only at htext
  subst htext
  refine ⟨⟨kind.name, variant.map Placeholder.name, text, some severity.name, line, column,
    some endLine, some endColumn⟩, ?_, by cases variant <;> exact hread⟩
  constructor
  case variant => cases variant <;> rfl
  all_goals rfl

/-- The message of an issue that is detected is a text. -/
theorem exists_message_of_detect {d : Detector} {source level : Json} {found : Detection}
    (hfound : d.detect source level = .ok found) :
    ∀ i ∈ found.issues, ∃ text, i.message = .string text := by
  intro i hi
  cases source with
  | string text =>
    obtain ⟨n, unit, -, hi⟩ := d.exists_unit_of_mem_issues hfound hi
    rw [detectIn_eq] at hi
    obtain ⟨rule, hrule⟩ := mem_findings.mp (List.mem_of_mem_filter hi)
    obtain ⟨-, -, message, -, -, rfl⟩ := Rule.makes_of_remarks hrule
    exact ⟨message, rfl⟩
  | _ =>
    cases hfound
    cases hi

/-! ## Units -/

/-- A record of a unit that is read from a request as it was written into an answer. -/
structure UnitRecord.Reusable (r : UnitRecord Number) : Prop where
  issues : ∀ i ∈ r.issues, i.Reusable
  linesOfCode : ∃ n : Int, r.linesOfCode = .int n ∧ 0 ≤ n
  complexityScore : ∃ x : Binary64, r.complexityScore = .float x ∧ x.NonNeg
  complexity_plain : r.complexityScore.IsPlain

/-- What a record of a unit was made from. -/
def UnitRecord.sample (r : UnitRecord Number) : UnitSample Number :=
  { issues := r.issues, linesOfCode := r.linesOfCode, complexity := r.complexityScore,
    unitId := r.unitId, unitName := r.unitName }

theorem sample_of_unitRecord {weights : Weights Number} {s : UnitSample Number}
    {r : UnitRecord Number} (h : unitRecord weights s = Except.ok (ε := Fault) r) :
    r.sample = s := by
  obtain ⟨score, -, h⟩ := bind_eq_ok.mp h
  cases h
  rfl

theorem samples_of_unitRecords {weights : Weights Number} {samples : List (UnitSample Number)}
    {records : List (UnitRecord Number)}
    (h : samples.mapM (unitRecord weights) = Except.ok (ε := Fault) records) :
    records.map UnitRecord.sample = samples := by
  have heach := (mapM_eq_ok_iff.mp h).imp fun _ _ => sample_of_unitRecord
  exact List.forall₂_eq_eq_eq ▸ List.forall₂_map_left_iff.mpr heach.flip

theorem Issue.exists_inputs {issues : List Issue} (h : ∀ i ∈ issues, i.Reusable) :
    ∃ inputs, List.Forall₂ IssueInput.HeldBy inputs (issues.map Issue.toJson) ∧
      inputs.mapM IssueInput.toIssue = .ok issues := by
  obtain ⟨inputs, hheld, hissues⟩ := exists_parts (h := id) fun i hi => (h i hi).exists_input
  rw [List.map_id] at hissues
  exact ⟨inputs, hheld, hissues⟩

/-- The record of a unit in an answer as a unit in a request. -/
def Json.asUnit (unit : Json) : Json :=
  .object [
    ("issues", unit.field "issues"),
    ("lines_of_code", unit.field "lines_of_code"),
    ("complexity", unit.field "complexity_score"),
    ("unit_id", unit.field "unit_id"),
    ("unit_name", unit.field "unit_name")]

/-- The object of a unit holds what the record of the unit was made from. -/
theorem UnitRecord.Reusable.exists_input {r : UnitRecord Number} (h : r.Reusable) :
    ∃ input : UnitInput, input.HeldBy r.toJson.asUnit ∧ input.toSample = .ok r.sample := by
  obtain ⟨hissues, ⟨n, hlines, hn⟩, ⟨x, hcomplexity, hx⟩, hplain⟩ := h
  obtain ⟨inputs, hinputs, hvalues⟩ := Issue.exists_inputs hissues
  refine ⟨⟨inputs, n, x, r.unitId, r.unitName⟩, ?_, ?_⟩
  · constructor
    case issues => exact ⟨_, rfl, hinputs⟩
    case linesOfCode => exact congrArg (some <| Number.toJson ·) hlines
    case lines_nonneg => exact hn
    case complexity => exact congrArg (some <| Number.toJson ·) hcomplexity
    case complexity_plain => exact hcomplexity ▸ hplain
    case complexity_nonneg => exact hx
    all_goals rfl
  · refine bind_eq_ok.mpr ⟨r.issues, hvalues, ?_⟩
    rw [sample, hlines, hcomplexity]
    rfl

/-! ## Groups -/

/-- The items of a list; none for other values. -/
def Json.items : Json → List Json
  | .array items => items
  | _ => []

/-- The report on a group in an answer as a request to score the group. -/
def Json.asGroup (group : Json) : Json :=
  .object [
    ("units", .array ((group.field "unit_records").items.map Json.asUnit)),
    ("group_id", group.field "group_id"),
    ("group_name", group.field "group_name")]

/-- The object of a group holds what the records of its units were made from. -/
theorem GroupReport.exists_request {report : GroupReport Number}
    (h : ∀ u ∈ report.record.units, u.Reusable) :
    ∃ units, GroupScoreRequest.HeldBy ⟨units, report.record.groupId, report.record.groupName⟩
        report.toJson.asGroup ∧
      units.mapM UnitInput.toSample = .ok (report.record.units.map UnitRecord.sample) := by
  obtain ⟨units, hheld, hsamples⟩ := exists_parts fun u hu => (h u hu).exists_input
  have hmap : report.record.units.map (fun u => u.toJson.asUnit) =
      (report.record.units.map UnitRecord.toJson).map Json.asUnit := by
    rw [List.map_map]
    rfl
  rw [hmap] at hheld
  exact ⟨units, ⟨⟨_, rfl, hheld⟩, rfl, rfl⟩, hsamples⟩

/-- The record of a group that is read from a request as it was written into an answer: its kinds
are names, and its scores are doubles. -/
structure GroupRecord.Reusable (r : GroupRecord Number) : Prop where
  distinctKinds : ∃ names : List String, r.distinctKinds = names.map Json.string
  scores : r.Plain

/-- A report on a group holds the record of the group, without the records of its units. -/
theorem GroupRecord.Reusable.exists_input {report : GroupReport Number}
    (h : report.record.Reusable) :
    ∃ input : GroupInput, input.HeldBy report.toJson ∧
      input.toRecord = .ok report.record.withoutUnits := by
  obtain ⟨⟨groupId, groupName, totalIssues, unitsWithIssues, unitsWithCriticalIssues, totalUnits,
    kinds, quality, complexity, units⟩, grade, criticalKinds, importantKinds, health,
    advice⟩ := report
  obtain ⟨⟨names, hkinds⟩, hquality, hcomplexity⟩ := h
  dsimp only at hkinds hquality hcomplexity
  obtain ⟨x, rfl, hx⟩ := hquality
  obtain ⟨y, rfl, hy⟩ := hcomplexity
  subst hkinds
  refine ⟨⟨groupId, groupName, totalIssues, unitsWithIssues, unitsWithCriticalIssues, totalUnits,
    names, .finite x, .finite y⟩, ?_, by cases names <;> rfl⟩
  constructor
  case quality_plain => exact ⟨x, rfl, hx⟩
  case complexity_plain => exact ⟨y, rfl, hy⟩
  all_goals rfl

end FlowLint
