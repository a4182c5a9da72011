import FlowLint.Proofs.Intake
import FlowLint.Proofs.Journal

/-!
# Saved issues

The row of a unit keeps each of its issues as an object, from which the issue is read again. So the
issues of a unit can be read from its history as they were stored.

* `UnitRow.Restores`: the answer for a row gives back the issues and the flag of a record.
* `Schema.mem_of_replay`, `mem_of_run`: no event and no operation changes a row, or makes one with
  an identifier that was given out before.
* `exists_unitHistory`: a row is listed in the history of its unit.
* `Keeps`: what the row of a stored unit is to the histories that are read.
* `saved_issues_restored`: a unit that is stored has such a row.
-/

namespace FlowLint

open Script (bind_eq_ok)

/-- The answer for a row gives back issues, one by one and in their order, and a flag. -/
structure UnitRow.Restores (row : UnitRow) (issues : List Issue) (flag : Bool) : Prop where
  issues : ∃ items, row.toJson.get? "issues" = some (.array items) ∧
    row.toJson.get? "issue_count" = some (.int items.length) ∧
    List.Forall₂ (fun item i => Issue.ofJson item = .ok i) items issues
  flag : row.toJson.get? "has_critical_issue" = some (.bool flag)

namespace Store

/-! ## Rows of units -/

theorem eq_some_of_required {column : String} {found : Option Cell} {c : Cell}
    (h : Cell.required column found = .ok c) : found = some c := by
  cases found with
  | none => cases h
  | some d =>
    cases h
    rfl

/-- A row has the issues of its entry, and is sought by what the entry was stored under. -/
structure IsRowOf (row : UnitRow) (groupId : Json) (e : UnitEntry) (flag : Bool) : Prop where
  group : sought 1 groupId = .ok (some row.groupId)
  unit : sought 2 e.unitId = .ok (some row.unitId)
  issues : row.issues = e.issues.map Issue.toJson
  issueCount : row.issueCount = e.issues.length
  flag : row.hasCriticalIssue = flag

theorem isRowOf_of_toRow {e : UnitEntry} {id : Nat} {groupId : Json} {stamp : String}
    {row : UnitRow} {flag : Bool} (hflag : e.hasCriticalIssue = .bool flag)
    (h : e.toRow id groupId stamp = .ok row) : IsRowOf row groupId e flag := by
  unfold UnitEntry.toRow at h
  obtain ⟨bit, hbit, h⟩ := bind_eq_ok.mp h
  obtain ⟨group, hgroup, h⟩ := bind_eq_ok.mp h
  obtain ⟨unit, hunit, h⟩ := bind_eq_ok.mp h
  obtain ⟨name, -, h⟩ := bind_eq_ok.mp h
  obtain ⟨lines, -, h⟩ := bind_eq_ok.mp h
  obtain ⟨complexity, -, h⟩ := bind_eq_ok.mp h
  obtain ⟨quality, -, h⟩ := bind_eq_ok.mp h
  obtain ⟨-, -, h⟩ := bind_eq_ok.mp h
  obtain ⟨groupCell, hgroupCell, h⟩ := bind_eq_ok.mp h
  obtain ⟨unitCell, hunitCell, h⟩ := bind_eq_ok.mp h
  obtain ⟨nameCell, -, h⟩ := bind_eq_ok.mp h
  obtain ⟨linesCell, -, h⟩ := bind_eq_ok.mp h
  obtain ⟨complexityCell, -, h⟩ := bind_eq_ok.mp h
  obtain ⟨qualityCell, -, h⟩ := bind_eq_ok.mp h
  obtain ⟨critical, hcritical, h⟩ := bind_eq_ok.mp h
  cases h
  obtain rfl := eq_some_of_required hgroupCell
  obtain rfl := eq_some_of_required hunitCell
  have hcopied : critical = flag := by
    rw [hflag] at hbit
    cases flag <;> cases hbit <;> cases hcritical <;> rfl
  exact ⟨hgroup, hunit, rfl, rfl, hcopied⟩

theorem IsRowOf.restores {row : UnitRow} {groupId : Json} {e : UnitEntry} {flag : Bool}
    (h : IsRowOf row groupId e flag) (hends : ∀ i ∈ e.issues, i.endLine ≠ 0 ∧ i.endColumn ≠ 0) :
    row.Restores e.issues flag where
  issues := by
    refine ⟨e.issues.map Issue.toJson, ?_, ?_, ?_⟩
    · rw [← h.issues]
      rfl
    · rw [List.length_map, ← h.issueCount]
      rfl
    · rw [List.forall₂_map_left_iff, List.forall₂_same]
      intro i hi
      obtain ⟨hline, hcolumn⟩ := hends i hi
      exact Issue.ofJson_toJson hline hcolumn
  flag := by
    rw [← h.flag]
    rfl

/-! ## Rows stay as they are -/

section Replay

variable {ε ρ : Type} {c : Schema ε ρ} {t t' : Table ρ}

/-- An event gives out a larger identifier if any, and the rows below that were there before. -/
theorem Schema.mem_of_apply {event : Event ε} (h : c.apply t event = .ok t') :
    t.lastId ≤ t'.lastId ∧ ∀ r ∈ t'.rows, c.id r ≤ t.lastId → r ∈ t.rows := by
  cases event with
  | insert e stamp =>
    obtain ⟨r, hr, h⟩ := bind_eq_ok.mp h
    cases h
    obtain ⟨hid, -⟩ := c.stamped e _ stamp r hr
    refine ⟨Nat.le_succ _, fun r' hr' hle => ?_⟩
    rcases List.mem_append.mp hr' with hr' | hr'
    · exact hr'
    · rw [List.mem_singleton.mp hr', hid] at hle
      omega
  | prune cutoff =>
    cases h
    exact ⟨Nat.le_refl _, fun r hr _ => List.mem_of_mem_filter hr⟩
  | clear =>
    cases h
    exact ⟨Nat.le_refl _, fun r hr _ => List.mem_of_mem_filter hr⟩

/-- The same for any number of events. -/
theorem Schema.mem_of_replay {events : List (Event ε)} (h : c.replay events t = .ok t') :
    t.lastId ≤ t'.lastId ∧ ∀ r ∈ t'.rows, c.id r ≤ t.lastId → r ∈ t.rows := by
  induction events generalizing t with
  | nil =>
    cases h
    exact ⟨Nat.le_refl _, fun r hr _ => hr⟩
  | cons event events ih =>
    obtain ⟨u, hu, h⟩ := bind_eq_ok.mp h
    obtain ⟨hle, hmem⟩ := mem_of_apply hu
    obtain ⟨hle', hmem'⟩ := ih h
    refine ⟨hle.trans hle', fun r hr hid => ?_⟩
    exact hmem r (hmem' r hr (hid.trans hle)) hid

end Replay

/-- After any operations, a row of a unit with an identifier that had been given out was there
before. -/
theorem mem_of_run {t : Store} {later : List Operation} {row : UnitRow}
    (hrow : row ∈ (Operation.run later t).2.units.rows) (hid : row.id ≤ t.units.lastId) :
    row ∈ t.units.rows := by
  have hgrows := Operation.grows_stepAll (Operation.stepAll_succeeded later t)
  exact (Schema.mem_of_replay hgrows.units).2 row hrow hid

/-! ## Histories of units -/

section History

variable {s : Store} {groupId unitId limit : Json} {row : UnitRow} {rows : List UnitRow}

/-- A history lists rows of the table. -/
theorem mem_of_unitHistory (h : s.unitHistory groupId unitId limit = .ok rows)
    (hrow : row ∈ rows) : row ∈ s.units.rows := by
  obtain ⟨-, -, h⟩ := bind_eq_ok.mp h
  obtain ⟨group, -, h⟩ := bind_eq_ok.mp h
  obtain ⟨unit, -, h⟩ := bind_eq_ok.mp h
  obtain ⟨cell, -, h⟩ := bind_eq_ok.mp h
  obtain ⟨bound, -, h⟩ := bind_eq_ok.mp h
  cases h
  have hlisted : row ∈ Table.newestFirst UnitRow.createdAt UnitRow.id
      (s.units.rows.filter fun r => group = some r.groupId && unit = some r.unitId) := by
    cases bound with
    | none => exact hrow
    | some n => exact List.mem_of_mem_take hrow
  exact List.mem_of_mem_filter ((List.mergeSort_perm _ _).mem_iff.mp hlisted)

/-- A limit that is negative or not below the number of rows leaves none of them out. -/
theorem exists_limitOf {n : Int} (hfits : Cell.fits n) {bound : Nat} (hn : n < 0 ∨ bound ≤ n) :
    ∃ cell limit, Cell.ofJson 3 (.int n) = .ok cell ∧ limitOf cell = .ok limit ∧
      ∀ {ρ : Type} (rows : List ρ), rows.length ≤ bound → limited limit rows = rows := by
  refine ⟨some (.int n), if n < 0 then none else some n.toNat, if_pos hfits, rfl, ?_⟩
  intro ρ rows hrows
  by_cases hneg : n < 0
  · rw [if_pos hneg]
    rfl
  · rw [if_neg hneg]
    exact List.take_of_length_le (by omega)

/-- A row is listed in the history that it is sought in. -/
theorem exists_unitHistory {e : UnitEntry} {flag : Bool} {n : Int} (hopen : s.opened = .ok ())
    (hmem : row ∈ s.units.rows) (hrow : IsRowOf row groupId e flag) (hfits : Cell.fits n)
    (hn : n < 0 ∨ s.units.rows.length ≤ n) :
    ∃ rows, s.unitHistory groupId e.unitId (.int n) = .ok rows ∧ row ∈ rows := by
  obtain ⟨cell, limit, hcell, hlimit, hlimited⟩ := exists_limitOf hfits hn
  let found := s.units.rows.filter fun r =>
    some row.groupId = some r.groupId && some row.unitId = some r.unitId
  let listed := Table.newestFirst UnitRow.createdAt UnitRow.id found
  have hperm : listed.Perm found := List.mergeSort_perm _ _
  have hall : limited limit listed = listed :=
    hlimited listed (hperm.length_eq.trans_le (List.length_filter_le _ _))
  refine ⟨listed, ?_, ?_⟩
  · rw [unitHistory, hopen, hrow.group, hrow.unit, hcell]
    simp only [bind, Except.bind, hlimit]
    exact congrArg Except.ok hall
  · exact hperm.mem_iff.mpr (List.mem_filter.mpr ⟨hmem, by simp⟩)

end History

/-! ## Saved issues -/

open Session Operation

/-- A row keeps what was stored of a unit: it restores its issues, its history lists it if the limit
leaves no rows out, and whatever happens later, no history shows another row in its place. -/
structure Keeps (row : UnitRow) (groupId : Json) (e : UnitEntry) (flag : Bool) (t : Store) :
    Prop where
  restores : row.Restores e.issues flag
  listed : ∀ n : Int, Cell.fits n → (n < 0 ∨ t.units.rows.length ≤ n) →
    ∃ rows, t.unitHistory groupId e.unitId (.int n) = .ok rows ∧ row ∈ rows
  lasting : ∀ later group unit limit rows,
    (run later t).2.unitHistory group unit limit = .ok rows →
    ∀ row' ∈ rows, row'.id = row.id → row' = row

/-- **Saved issues.** An issue that ends on a line and in a column other than zero is read as it was
written. If a unit with such issues is stored, after any operations on a fresh store, then one row
is created, and it keeps them and the flag. -/
theorem saved_issues_restored :
    (∀ i : Issue, i.endLine ≠ 0 → i.endColumn ≠ 0 → Issue.ofJson i.toJson = .ok i) ∧
      ∀ (retention : Int) (before : List Operation) (groupId : Json) (e : UnitEntry)
        (stamp : String) (flag : Bool) (t : Store),
      (∀ i ∈ e.issues, i.endLine ≠ 0 ∧ i.endColumn ≠ 0) → e.hasCriticalIssue = .bool flag →
      let s := (run before { retentionDays := retention }).2
      after (Session.storeUnit groupId e stamp) s = .ok t →
      ∃ row, t.units.rows = s.units.rows ++ [row] ∧ Keeps row groupId e flag t := by
  refine ⟨fun i hline hcolumn => Issue.ofJson_toJson hline hcolumn, ?_⟩
  intro retention before groupId e stamp flag t hends hflag s h
  have hpast : Recorded (past retention before) s := recorded_run retention before
  rw [storeUnit_eq, after_change] at h
  obtain ⟨⟨⟩, hopen, h⟩ := bind_eq_ok.mp h
  obtain ⟨table, htable, h⟩ := bind_eq_ok.mp h
  obtain ⟨row, hrow, htable⟩ := bind_eq_ok.mp htable
  cases htable
  cases h
  have hwritten := isRowOf_of_toRow hflag hrow
  have hid : row.id = s.units.lastId + 1 := (unitSchema.stamped (groupId, e) _ stamp row hrow).1
  refine ⟨row, rfl, hwritten.restores hends, fun n hfits hn => ?_, ?_⟩
  · exact exists_unitHistory hopen (by simp) hwritten hfits hn
  · intro later group unit limit rows hrows row' hrow' hsame
    have hthere := mem_of_run (mem_of_unitHistory hrows hrow') (Nat.le_of_eq (hsame.trans hid))
    rcases List.mem_append.mp hthere with hearlier | hnew
    · -- An earlier row has a smaller identifier.
      have hle : row'.id ≤ s.units.lastId := hpast.units.id_le hearlier
      omega
    · exact List.mem_singleton.mp hnew

/-- A unit with two issues, one of them of a placeholder. -/
def twoIssues : UnitEntry :=
  { unitId := .string "u", unitName := .string "unit"
    issues := [.found .debuggerStatement "Remove debugger" (.ofLines 1 1 1 10) none,
      .found .placeholderValue "Remove hardcoded test number" (.ofLines 2 9 2 12) (some .number)]
    hasCriticalIssue := .bool true }

theorem saved_issues_restored_twice :
    (∀ i ∈ twoIssues.issues, i.endLine ≠ 0 ∧ i.endColumn ≠ 0 ∧ Issue.ofJson i.toJson = .ok i) ∧
      twoIssues.hasCriticalIssue = .bool true ∧
      let s := (run [.unit (.string "g") twoIssues "2024-05-09T11:00:00"] {}).2
      ∃ t, after (Session.storeUnit (.string "g") twoIssues "2024-05-09T10:00:00") s = .ok t ∧
        ∃ row, t.units.rows = s.units.rows ++ [row] ∧
          Keeps row (.string "g") twoIssues true t := by
  have hends : ∀ i ∈ twoIssues.issues, i.endLine ≠ 0 ∧ i.endColumn ≠ 0 := by decide
  refine ⟨fun i hi => ?_, rfl, _, rfl, ?_⟩
  · obtain ⟨hline, hcolumn⟩ := hends i hi
    exact ⟨hline, hcolumn, saved_issues_restored.1 i hline hcolumn⟩
  · exact saved_issues_restored.2 defaultRetention _ _ _ _ _ _ hends rfl rfl

end Store
end FlowLint
