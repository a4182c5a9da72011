import FlowLint.Proofs.Journal
import FlowLint.Proofs.Moments

/-!
# Retention

Pruning compares texts. Where these are the texts of moments, it removes exactly the rows that are
older than the retention period.

* `Store.Dated`: the timestamps in a store are texts of moments, and its retention period is from 1
  to 30 days. `Store.dated_run`: so they are after operations that give such timestamps.
* `Table.Pruned`: what pruning leaves of a table, in terms of moments.
* `Store.prune_removes_older`: what pruning does to a store, and that doing it again does nothing.
-/

namespace FlowLint

open Script (bind_eq_ok)

/-- A clamped number is between its bounds, if the default is. -/
theorem Json.clamped_bounds {least greatest fallback n : Int} {j : Json}
    (h : j.clamped least greatest fallback = .ok n) (hleast : least ≤ fallback)
    (hgreatest : fallback ≤ greatest) : least ≤ n ∧ n ≤ greatest := by
  unfold clamped at h
  split at h
  · cases h
    omega
  · cases h
  · cases h
    exact ⟨hleast, hgreatest⟩

variable {ρ ε : Type}

/-! ## Stores with timestamps of moments -/

/-- The text of a moment. -/
def IsTimestamp (stamp : String) : Prop :=
  ∃ m : Moment, stamp = m.text

/-- The rows of a table have timestamps of moments. -/
def Table.Dated (createdAt : ρ → String) (t : Table ρ) : Prop :=
  ∀ r ∈ t.rows, IsTimestamp (createdAt r)

namespace Store

/-- The timestamps are texts of moments, and the retention period is one that can be set. -/
structure Dated (s : Store) : Prop where
  units : s.units.Dated UnitRow.createdAt
  groups : s.groups.Dated GroupRow.createdAt
  systems : s.systems.Dated SystemRow.createdAt
  retention : 1 ≤ s.retentionDays ∧ s.retentionDays ≤ 30

/-- An event that gives a row a timestamp of a moment, if it gives any. -/
def Event.Timed : Event ε → Prop
  | insert _ stamp => IsTimestamp stamp
  | _ => True

/-- An operation that gives its rows timestamps of moments, if it adds any. -/
def Operation.Timed : Operation → Prop
  | unit _ _ stamp | group _ stamp | system _ stamp | scan _ _ stamp => IsTimestamp stamp
  | _ => True

section

variable {c : Schema ε ρ} {t t' : Table ρ}

theorem dated_apply {event : Event ε} (h : t.Dated c.createdAt) (hevent : event.Timed)
    (ht : c.apply t event = .ok t') : t'.Dated c.createdAt := by
  cases event with
  | insert e stamp =>
    obtain ⟨r, hr, ht⟩ := bind_eq_ok.mp ht
    cases ht
    intro r' hr'
    rcases List.mem_append.mp hr' with hr' | hr'
    · exact h r' hr'
    · rw [List.mem_singleton.mp hr', (c.stamped e _ stamp r hr).2]
      exact hevent
  | prune cutoff =>
    cases ht
    exact fun r hr => h r (List.mem_of_mem_filter hr)
  | clear =>
    cases ht
    exact fun r hr => h r (List.mem_of_mem_filter hr)

theorem dated_replay {events : List (Event ε)} (h : t.Dated c.createdAt)
    (hevents : ∀ event ∈ events, event.Timed) (ht : c.replay events t = .ok t') :
    t'.Dated c.createdAt := by
  induction events generalizing t with
  | nil =>
    cases ht
    exact h
  | cons event events ih =>
    obtain ⟨u, hu, ht⟩ := bind_eq_ok.mp ht
    exact ih (dated_apply h (hevents event List.mem_cons_self) hu)
      (fun event' hevent' => hevents event' (List.mem_cons_of_mem _ hevent')) ht

end

/-- All that happens to the tables gives rows timestamps of moments. -/
structure Happens.Timed (events : Happens) : Prop where
  units : ∀ event ∈ events.units, event.Timed
  groups : ∀ event ∈ events.groups, event.Timed
  systems : ∀ event ∈ events.systems, event.Timed

theorem Operation.Timed.happens {op : Operation} (h : op.Timed) (retention : Int) :
    (op.happens retention).Timed := by
  have hinsert {ε : Type} (e : ε) {stamp : String} (hstamp : IsTimestamp stamp) :
      ∀ event ∈ [Event.insert e stamp], event.Timed := by
    intro event hevent
    rw [List.mem_singleton.mp hevent]
    exact hstamp
  cases op with
  | unit groupId e stamp => exact ⟨hinsert _ h, nofun, nofun⟩
  | group e stamp => exact ⟨nofun, hinsert _ h, nofun⟩
  | system e stamp => exact ⟨nofun, nofun, hinsert _ h⟩
  | scan groups e stamp =>
    refine ⟨?_, ?_, hinsert _ h⟩
    · intro event hevent
      obtain ⟨g, -, hevent⟩ := List.mem_flatMap.mp hevent
      obtain ⟨u, -, rfl⟩ := List.mem_map.mp hevent
      exact h
    · intro event hevent
      obtain ⟨g, -, rfl⟩ := List.mem_map.mp hevent
      exact h
  | prune days now =>
    rw [Operation.happens]
    cases Operation.cutoff? retention days now <;>
      constructor <;> simp [Happens.pruned, Event.Timed]
  | _ => constructor <;> simp [Operation.happens, Happens.cleared, Event.Timed]

theorem Operation.retentionAfter_bounds {retention : Int} (op : Operation)
    (h : 1 ≤ retention ∧ retention ≤ 30) :
    1 ≤ op.retentionAfter retention ∧ op.retentionAfter retention ≤ 30 := by
  have hclamped (days : Json) : 1 ≤ (clampRetention days).toOption.getD retention ∧
      (clampRetention days).toOption.getD retention ≤ 30 := by
    cases hdays : clampRetention days with
    | ok n => exact Json.clamped_bounds hdays (by decide) (by decide)
    | error e => exact h
  cases op with
  | setRetention days | reopen days => exact hclamped days
  | _ => exact h

theorem dated_fresh {days : Int} (h : 1 ≤ days ∧ days ≤ 30) : Dated { retentionDays := days } where
  units _ hr := absurd hr List.not_mem_nil
  groups _ hr := absurd hr List.not_mem_nil
  systems _ hr := absurd hr List.not_mem_nil
  retention := h

variable {s t : Store}

/-- One operation that succeeds. -/
theorem Dated.steps {op : Operation} (h : s.Dated) (hop : op.Timed) (ht : Operation.Steps op s t) :
    t.Dated where
  units := dated_replay h.units (hop.happens _).units ht.tables.units
  groups := dated_replay h.groups (hop.happens _).groups ht.tables.groups
  systems := dated_replay h.systems (hop.happens _).systems ht.tables.systems
  retention := ht.retention ▸ op.retentionAfter_bounds h.retention

theorem Dated.stepAll {ops : List Operation} (h : s.Dated) (hops : ∀ op ∈ ops, op.Timed)
    (ht : Operation.stepAll ops s = .ok t) : t.Dated := by
  induction ops generalizing s with
  | nil =>
    cases ht
    exact h
  | cons op ops ih =>
    obtain ⟨u, hu, ht⟩ := bind_eq_ok.mp ht
    exact ih (h.steps (hops op List.mem_cons_self) (Operation.steps_perform op hu))
      (fun op' hop' => hops op' (List.mem_cons_of_mem _ hop')) ht

/-- A store is dated after any operations with timestamps of moments, failed ones among them. -/
theorem dated_run {ops : List Operation} (h : s.Dated) (hops : ∀ op ∈ ops, op.Timed) :
    (Operation.run ops s).2.Dated :=
  h.stepAll (fun op hop => hops op ((Operation.succeeded_sublist ops s).subset hop))
    (Operation.stepAll_succeeded ops s)

end Store

/-! ## Pruning -/

namespace Table

variable (createdAt : ρ → String)

/-- How many rows of a table are from before an instant. -/
def older (instant : Int) (t : Table ρ) : Nat :=
  t.rows.countP fun r => Timestamp.instant (createdAt r) < instant

/-- What is left of a table when rows older than a number of days are removed. -/
structure Pruned (now days : Int) (t t' : Table ρ) : Prop where
  rows : t'.rows = t.rows.filter fun r => now - days * dayLength ≤ Timestamp.instant (createdAt r)
  lastId : t'.lastId = t.lastId
  /-- A row younger than a day is still there. -/
  young : ∀ r ∈ t.rows, now - dayLength < Timestamp.instant (createdAt r) → r ∈ t'.rows
  /-- No row is older than thirty days. -/
  old : ∀ r ∈ t'.rows, now - 30 * dayLength ≤ Timestamp.instant (createdAt r)

variable {createdAt} {t : Table ρ} (cutoff : Moment)

/-- A timestamp is below that of a moment exactly if it is of an earlier moment. -/
theorem Dated.lt_cutoff_iff (h : t.Dated createdAt) {r : ρ} (hr : r ∈ t.rows) :
    createdAt r < cutoff.text ↔ Timestamp.instant (createdAt r) < cutoff.instant := by
  obtain ⟨m, hm⟩ := h r hr
  rw [hm, Moment.text_lt_iff, Moment.instant_text]

theorem Dated.keep_rows (h : t.Dated createdAt) :
    (t.keep fun r => !(createdAt r < cutoff.text)).rows =
      t.rows.filter fun r => cutoff.instant ≤ Timestamp.instant (createdAt r) := by
  refine List.filter_congr fun r hr => ?_
  rw [decide_eq_decide.mpr (h.lt_cutoff_iff cutoff hr), ← decide_not, decide_eq_decide, not_lt]

theorem Dated.pruned_keep (h : t.Dated createdAt) {now days : Int} (hdays : 1 ≤ days ∧ days ≤ 30)
    (hcutoff : cutoff.instant = now - days * dayLength) :
    t.Pruned createdAt now days (t.keep fun r => !(createdAt r < cutoff.text)) := by
  have hrows := h.keep_rows cutoff
  rw [hcutoff] at hrows
  refine ⟨hrows, rfl, ?_, ?_⟩
  · intro r hr hyoung
    rw [hrows, List.mem_filter, decide_eq_true_eq]
    refine ⟨hr, ?_⟩
    unfold dayLength at hyoung ⊢
    omega
  · intro r hr
    rw [hrows, List.mem_filter, decide_eq_true_eq] at hr
    have hold := hr.2
    unfold dayLength at hold ⊢
    omega

/-- The rows that are left and the older ones are all rows. -/
theorem Dated.length_keep (h : t.Dated createdAt) :
    (t.keep fun r => !(createdAt r < cutoff.text)).rows.length + t.older createdAt cutoff.instant =
      t.rows.length := by
  rw [h.keep_rows cutoff, older, ← List.countP_eq_length_filter,
    List.length_eq_countP_add_countP fun r => cutoff.instant ≤ Timestamp.instant (createdAt r)]
  simp

/-- Keeping some rows again changes nothing. -/
theorem keep_keep (t : Table ρ) (p : ρ → Bool) : (t.keep p).keep p = t.keep p := by
  simp [keep]

end Table

namespace Store

/-- The retention period that a request for pruning means, given or not. -/
def period (s : Store) (given : Option Int) : Int :=
  max 1 (min 30 (given.getD s.retentionDays))

/-- How many rows of a store are from before an instant. -/
def older (instant : Int) (s : Store) : Nat :=
  s.units.older UnitRow.createdAt instant + s.groups.older GroupRow.createdAt instant +
    s.systems.older SystemRow.createdAt instant

/-- What is left of a store when rows older than a number of days are removed. -/
structure Pruned (now days : Int) (s t : Store) : Prop where
  units : s.units.Pruned UnitRow.createdAt now days t.units
  groups : s.groups.Pruned GroupRow.createdAt now days t.groups
  systems : s.systems.Pruned SystemRow.createdAt now days t.systems
  retentionDays : t.retentionDays = s.retentionDays
  isOpen : t.isOpen = s.isOpen

variable {s : Store} {given : Option Int} {now cutoff : Moment}

theorem pruneDays_eq (hs : s.Dated) : s.pruneDays (given.map .int) = .ok (s.period given) := by
  cases given with
  | none =>
    have hperiod : s.period none = s.retentionDays := by
      have hbounds := hs.retention
      simp only [period, Option.getD_none]
      omega
    rw [hperiod]
    rfl
  | some days => rfl

theorem period_bounds (s : Store) (given : Option Int) :
    1 ≤ s.period given ∧ s.period given ≤ 30 := by
  unfold period
  omega

theorem prune_eq (hs : s.Dated) (hopen : s.isOpen = true) (given : Option Int)
    (hcutoff : Timestamp.daysBefore? (s.period given).toNat now.text = some cutoff.text) :
    s.prune (given.map .int) now.text =
      .ok (s.without cutoff.text, s.size - (s.without cutoff.text).size, s.period given) := by
  have hopened : s.opened = .ok () := by
    rw [opened, if_pos hopen]
  rw [prune, pruneDays_eq hs]
  dsimp only [bind, Except.bind]
  rw [hcutoff]
  dsimp only
  rw [hopened]
  rfl

theorem without_without (s : Store) (cutoff : String) :
    (s.without cutoff).without cutoff = s.without cutoff := by
  simp only [without, Table.keep_keep]

/-- The rows that are removed are the older ones. -/
theorem size_sub_size_without (hs : s.Dated) :
    s.size - (s.without cutoff.text).size = s.older cutoff.instant := by
  have hunits := hs.units.length_keep cutoff
  have hgroups := hs.groups.length_keep cutoff
  have hsystems := hs.systems.length_keep cutoff
  simp only [size, without, older]
  omega

/-- **Retention.** Timestamps of moments are in the order of these. A pruning therefore removes
exactly the rows that are older than the retention period, and says how many these are; when it is
done again, there are none. -/
theorem prune_removes_older (hs : s.Dated) (hopen : s.isOpen = true)
    (hcutoff : s.period given * dayLength ≤ now.instant) :
    (∀ m m' : Moment,
      Timestamp.instant m.text = m.instant ∧ (m.text < m'.text ↔ m.instant < m'.instant)) ∧
      ∃ t, s.prune (given.map .int) now.text =
          .ok (t, s.older (now.instant - s.period given * dayLength), s.period given) ∧
        s.Pruned now.instant (s.period given) t ∧
        t.prune (given.map .int) now.text = .ok (t, 0, s.period given) := by
  have hbounds := s.period_bounds given
  have hnat : ((s.period given).toNat : Int) = s.period given := by omega
  obtain ⟨cutoff, hbefore, hinstant⟩ := Moment.exists_daysBefore? (hnat ▸ hcutoff)
  rw [hnat] at hinstant
  have hpruned : s.Pruned now.instant (s.period given) (s.without cutoff.text) :=
    { units := hs.units.pruned_keep cutoff hbounds hinstant
      groups := hs.groups.pruned_keep cutoff hbounds hinstant
      systems := hs.systems.pruned_keep cutoff hbounds hinstant
      retentionDays := rfl
      isOpen := rfl }
  have hleft : (s.without cutoff.text).Dated :=
    { units := fun r hr => hs.units r (List.mem_of_mem_filter hr)
      groups := fun r hr => hs.groups r (List.mem_of_mem_filter hr)
      systems := fun r hr => hs.systems r (List.mem_of_mem_filter hr)
      retention := hs.retention }
  refine ⟨fun m m' => ⟨m.instant_text, Moment.text_lt_iff⟩, _, ?_, hpruned, ?_⟩
  · rw [prune_eq hs hopen given hbefore, size_sub_size_without hs, hinstant]
  · -- The retention period is still the same, and so is the cutoff.
    have hagain := prune_eq hleft hopen given hbefore
    rwa [without_without, Nat.sub_self] at hagain

/-- Half past twelve on the day that a period of seven days before the next moment starts with,
over the end of a leap February. -/
def cutoffOfMarch : Moment :=
  ⟨⟨2024, 2, 27⟩, ⟨by decide, by decide, by decide⟩, 12, 30, 0, 0⟩

def fifthOfMarch : Moment :=
  ⟨⟨2024, 3, 5⟩, ⟨by decide, by decide, by decide⟩, 12, 30, 0, 0⟩

/-- Rows a microsecond before the cutoff, at it, and a microsecond after it. -/
def aroundCutoff : List Operation :=
  [.unit (.string "g") {}
      { cutoffOfMarch with minute := 29, second := 59, microsecond := 999999 }.text,
    .group {} cutoffOfMarch.text,
    .system {} { cutoffOfMarch with microsecond := 1 }.text]

theorem prune_removes_older_around_cutoff :
    let s := (Operation.run aroundCutoff { retentionDays := 7 }).2
    s.Dated ∧ s.isOpen = true ∧ s.period none * dayLength ≤ fifthOfMarch.instant ∧
      s.size = 3 ∧ s.older (fifthOfMarch.instant - s.period none * dayLength) = 1 ∧
      (∀ m m' : Moment,
        Timestamp.instant m.text = m.instant ∧ (m.text < m'.text ↔ m.instant < m'.instant)) ∧
      ∃ t, s.prune (Option.map .int none) fifthOfMarch.text =
          .ok (t, s.older (fifthOfMarch.instant - s.period none * dayLength), s.period none) ∧
        s.Pruned fifthOfMarch.instant (s.period none) t ∧
        t.prune (Option.map .int none) fifthOfMarch.text = .ok (t, 0, s.period none) := by
  intro s
  have hdated : s.Dated :=
    dated_run (dated_fresh (by decide)) (by simp [aroundCutoff, Operation.Timed, IsTimestamp])
  have hcutoff : s.period none * dayLength ≤ fifthOfMarch.instant := by decide +kernel
  have hopen : s.isOpen = true := by decide +kernel
  exact ⟨hdated, hopen, hcutoff, by decide +kernel, by decide +kernel,
    prune_removes_older hdated hopen hcutoff⟩

end Store

end FlowLint
