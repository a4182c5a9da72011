import FlowLint.Proofs.Conversion
import FlowLint.Proofs.Transactions

/-!
# Tables and their histories

What happens to a table is written down as a list of events: insertions, prunings and clearings.
The list determines the rows. A row is there if it was inserted and no later event removed it, and
its identifier is the number of its insertion, so that identifiers grow and are never used again.

* `Schema.Holds` says this of a list of events and a table; `Schema.Holds.apply` is one event more,
  `Schema.Holds.replay` any number of them.
* `Operation.happens`: what an operation that succeeds does to the three tables
  (`Operation.steps_perform`).
* `Operation.recorded_run`: the tables after operations on a fresh store are what the journal of
  those says that succeeded.
-/

namespace FlowLint.Store

open Script (bind_eq_ok mapError_eq_ok)

variable {ε ρ : Type}

/-! ## Events -/

/-- What happens to a table. -/
inductive Event (ε : Type) where
  | insert (entry : ε) (stamp : String)
  /-- Rows with a timestamp below the cutoff are removed. -/
  | prune (cutoff : String)
  | clear

namespace Event

def isInsert : Event ε → Bool
  | insert .. => true
  | _ => false

/-- The event leaves rows with a timestamp where they are. -/
def Spares (stamp : String) : Event ε → Prop
  | insert .. => True
  | prune cutoff => ¬stamp < cutoff
  | clear => False

end Event

/-- How many rows were inserted. -/
def insertions (events : List (Event ε)) : Nat :=
  events.countP Event.isInsert

theorem insertions_append (events more : List (Event ε)) :
    insertions (events ++ more) = insertions events + insertions more :=
  List.countP_append

/-- How the rows of a table are made of entries. -/
structure Schema (ε ρ : Type) where
  toRow : ε → Nat → String → Except StoreError ρ
  id : ρ → Nat
  createdAt : ρ → String
  stamped : ∀ e n stamp r, toRow e n stamp = .ok r → id r = n ∧ createdAt r = stamp

namespace Schema

variable (c : Schema ε ρ)

/-- A table after an event. -/
def apply (t : Table ρ) : Event ε → Except StoreError (Table ρ)
  | .insert e stamp => t.append fun id => c.toRow e id stamp
  | .prune cutoff => .ok (t.keep fun r => !(c.createdAt r < cutoff))
  | .clear => .ok (t.keep fun _ => false)

/-- A table after events. -/
def replay (events : List (Event ε)) (t : Table ρ) : Except StoreError (Table ρ) :=
  events.foldlM c.apply t

/-- The rows of a table are those that the events inserted and did not remove. The row of an
insertion has the number of the insertion as identifier. -/
structure Holds (events : List (Event ε)) (t : Table ρ) : Prop where
  inserted : ∀ r ∈ t.rows, ∃ before e stamp after, events = before ++ .insert e stamp :: after ∧
    c.toRow e (insertions before + 1) stamp = .ok r ∧ c.id r = insertions before + 1 ∧
    c.createdAt r = stamp ∧ ∀ event ∈ after, event.Spares stamp
  kept : ∀ before e stamp after, events = before ++ .insert e stamp :: after →
    (∀ event ∈ after, event.Spares stamp) →
    ∃ r ∈ t.rows, c.toRow e (insertions before + 1) stamp = .ok r
  increasing : t.rows.Pairwise fun r r' => c.id r < c.id r'
  lastId : t.lastId = insertions events

variable {c} {events : List (Event ε)} {t t' : Table ρ}

namespace Holds

theorem empty (c : Schema ε ρ) : c.Holds [] {} where
  inserted r hr := absurd hr List.not_mem_nil
  kept before e stamp after h := absurd h.symm (by simp)
  increasing := .nil
  lastId := rfl

/-- An identifier in a table is not above the last one that was given out. -/
theorem id_le (h : c.Holds events t) {r : ρ} (hr : r ∈ t.rows) : c.id r ≤ t.lastId := by
  obtain ⟨before, e, stamp, after, rfl, -, hid, -⟩ := h.inserted r hr
  rw [hid, h.lastId, insertions_append]
  have hone : insertions (.insert e stamp :: after) = insertions after + 1 :=
    List.countP_cons_of_pos rfl
  omega

/-- The row of an insertion is there, if all that the insertion can write is a certain row. -/
theorem row_mem (h : c.Holds events t) {before after : List (Event ε)} {e : ε} {stamp : String}
    {row : Nat → ρ} (hevents : events = before ++ .insert e stamp :: after)
    (hspares : ∀ event ∈ after, event.Spares stamp)
    (hrow : ∀ id r, c.toRow e id stamp = .ok r → r = row id) :
    row (insertions before + 1) ∈ t.rows := by
  obtain ⟨r, hr, hwritten⟩ := h.kept before e stamp after hevents hspares
  rwa [← hrow _ r hwritten]

/-- The last event is either the insertion that is looked at or comes after it. -/
theorem split_last {event : Event ε} {before : List (Event ε)} {e : ε} {stamp : String}
    {after : List (Event ε)} (h : events ++ [event] = before ++ .insert e stamp :: after) :
    (after = [] ∧ events = before ∧ event = .insert e stamp) ∨
      ∃ rest, after = rest ++ [event] ∧ events = before ++ .insert e stamp :: rest := by
  rcases List.eq_nil_or_concat after with rfl | ⟨rest, last, rfl⟩
  · obtain ⟨hevents, hevent⟩ := List.append_inj' h rfl
    exact .inl ⟨rfl, hevents, List.singleton_inj.mp hevent⟩
  · have hsplit : events ++ [event] = (before ++ .insert e stamp :: rest) ++ [last] := by
      simpa using h
    obtain ⟨hevents, hevent⟩ := List.append_inj' hsplit rfl
    rw [List.singleton_inj.mp hevent]
    exact .inr ⟨rest, by simp, hevents⟩

/-- An insertion adds its row, and spares all others. -/
theorem insert (h : c.Holds events t) {e : ε} {stamp : String} {r : ρ}
    (hr : c.toRow e (t.lastId + 1) stamp = .ok r) :
    c.Holds (events ++ [.insert e stamp]) { rows := t.rows ++ [r], lastId := t.lastId + 1 } := by
  obtain ⟨hid, hstamp⟩ := c.stamped e _ stamp r hr
  rw [h.lastId] at hr hid
  constructor
  case inserted =>
    intro r' hr'
    rcases List.mem_append.mp hr' with hr' | hr'
    · obtain ⟨before, e', stamp', after, rfl, hrow, hid', hstamp', hspares⟩ := h.inserted r' hr'
      refine ⟨before, e', stamp', after ++ [.insert e stamp], by simp, hrow, hid', hstamp', ?_⟩
      intro event hevent
      rcases List.mem_append.mp hevent with hevent | hevent
      · exact hspares event hevent
      · rw [List.mem_singleton.mp hevent]
        trivial
    · rw [List.mem_singleton.mp hr']
      exact ⟨events, e, stamp, [], rfl, hr, hid, hstamp, nofun⟩
  case kept =>
    intro before e' stamp' after hevents hspares
    rcases split_last hevents with ⟨-, rfl, hevent⟩ | ⟨rest, rfl, hbefore⟩
    · cases hevent
      exact ⟨r, by simp, hr⟩
    · obtain ⟨r', hr', hrow⟩ := h.kept before e' stamp' rest hbefore fun event hevent =>
        hspares event (List.mem_append_left _ hevent)
      exact ⟨r', List.mem_append_left _ hr', hrow⟩
  case increasing =>
    refine List.pairwise_append.mpr ⟨h.increasing, List.pairwise_singleton _ _, ?_⟩
    intro r' hr' last hlast
    rw [List.mem_singleton.mp hlast, hid, ← h.lastId]
    exact Nat.lt_succ_of_le (h.id_le hr')
  case lastId =>
    rw [insertions_append, h.lastId]
    rfl

/-- What removes rows keeps those that it spares. -/
theorem keep (h : c.Holds events t) {event : Event ε} {p : ρ → Bool}
    (hevent : event.isInsert = false) (hp : ∀ r, p r = true ↔ event.Spares (c.createdAt r)) :
    c.Holds (events ++ [event]) (t.keep p) := by
  constructor
  case inserted =>
    intro r hr
    obtain ⟨hr, hkept⟩ := List.mem_filter.mp hr
    obtain ⟨before, e, stamp, after, rfl, hrow, hid, rfl, hspares⟩ := h.inserted r hr
    refine ⟨before, e, _, after ++ [event], by simp, hrow, hid, rfl, ?_⟩
    intro event' hevent'
    rcases List.mem_append.mp hevent' with hevent' | hevent'
    · exact hspares event' hevent'
    · rw [List.mem_singleton.mp hevent']
      exact (hp r).mp hkept
  case kept =>
    intro before e stamp after hevents hspares
    rcases split_last hevents with ⟨-, -, rfl⟩ | ⟨rest, rfl, hbefore⟩
    · cases hevent
    · obtain ⟨r, hr, hrow⟩ := h.kept before e stamp rest hbefore fun event hevent =>
        hspares event (List.mem_append_left _ hevent)
      refine ⟨r, List.mem_filter.mpr ⟨hr, ?_⟩, hrow⟩
      rw [hp, (c.stamped e _ stamp r hrow).2]
      exact hspares event (by simp)
  case increasing => exact h.increasing.sublist List.filter_sublist
  case lastId =>
    have hnone : insertions [event] = 0 := by
      unfold insertions
      simp [hevent]
    rw [insertions_append, hnone]
    exact h.lastId

/-- One event more. -/
theorem apply (h : c.Holds events t) {event : Event ε} (ht : c.apply t event = .ok t') :
    c.Holds (events ++ [event]) t' := by
  cases event with
  | insert e stamp =>
    obtain ⟨r, hr, ht⟩ := bind_eq_ok.mp ht
    cases ht
    exact h.insert hr
  | prune cutoff =>
    cases ht
    exact h.keep rfl fun r => by simp [Event.Spares]
  | clear =>
    cases ht
    exact h.keep rfl fun r => by simp [Event.Spares]

/-- Any number of events more. -/
theorem replay (h : c.Holds events t) {more : List (Event ε)} (ht : c.replay more t = .ok t') :
    c.Holds (events ++ more) t' := by
  induction more generalizing events t with
  | nil =>
    cases ht
    rwa [List.append_nil]
  | cons event more ih =>
    obtain ⟨u, hu, ht⟩ := bind_eq_ok.mp ht
    have hrest := ih (h.apply hu) ht
    rwa [List.append_assoc] at hrest

end Holds

theorem replay_single {event : Event ε} :
    c.replay [event] t = .ok t' ↔ c.apply t event = .ok t' := by
  unfold replay
  rw [List.foldlM_cons]
  cases c.apply t event <;> rfl

theorem replay_append {more : List (Event ε)} {u : Table ρ} (h : c.replay events t = .ok t')
    (h' : c.replay more t' = .ok u) : c.replay (events ++ more) t = .ok u := by
  unfold replay at h h' ⊢
  rw [List.foldlM_append, h]
  exact h'

/-- Insertions append a row for each entry, with identifiers that were not given out before. -/
theorem exists_rows_of_inserts {es : List ε} {stamp : String}
    (h : c.replay (es.map fun e => .insert e stamp) t = .ok t') :
    ∃ rows, t'.rows = t.rows ++ rows ∧
      List.Forall₂ (fun e r => ∃ id, t.lastId < id ∧ c.toRow e id stamp = .ok r) es rows := by
  induction es generalizing t with
  | nil =>
    cases h
    exact ⟨[], (List.append_nil _).symm, .nil⟩
  | cons e es ih =>
    obtain ⟨u, hu, h⟩ := bind_eq_ok.mp h
    obtain ⟨r, hr, hu⟩ := bind_eq_ok.mp hu
    cases hu
    obtain ⟨rows, hrows, hforall⟩ := ih h
    refine ⟨r :: rows, by simp [hrows], .cons ⟨_, Nat.lt_succ_self _, hr⟩ (hforall.imp ?_)⟩
    rintro e' r' ⟨id, hid, hr'⟩
    exact ⟨id, Nat.lt_of_succ_lt hid, hr'⟩

end Schema

/-! ## The three tables -/

/-- A computation that goes on with something else gives what that gives. -/
theorem ok_of_bind {ε' α β : Type} {x : Except ε' α} {f : α → Except ε' β} {P : β → Prop}
    (h : ∀ a b, f a = .ok b → P b) : ∀ b, (x >>= f) = .ok b → P b := by
  intro b hb
  obtain ⟨a, -, hb⟩ := bind_eq_ok.mp hb
  exact h a b hb

/-- The rows of units; an entry comes with the group of the unit. -/
def unitSchema : Schema (Json × UnitEntry) UnitRow where
  toRow e id stamp := e.2.toRow id e.1 stamp
  id := UnitRow.id
  createdAt := UnitRow.createdAt
  stamped e n stamp := by
    unfold UnitEntry.toRow
    repeat refine ok_of_bind fun _ => ?_
    rintro _ ⟨⟩
    exact ⟨rfl, rfl⟩

/-- The rows of groups. -/
def groupSchema : Schema GroupEntry GroupRow where
  toRow e id stamp := e.toRow id stamp
  id := GroupRow.id
  createdAt := GroupRow.createdAt
  stamped e n stamp := by
    unfold GroupEntry.toRow
    repeat refine ok_of_bind fun _ => ?_
    rintro _ ⟨⟩
    exact ⟨rfl, rfl⟩

/-- The rows of systems. -/
def systemSchema : Schema SystemEntry SystemRow where
  toRow e id stamp := e.toRow id stamp
  id := SystemRow.id
  createdAt := SystemRow.createdAt
  stamped e n stamp := by
    unfold SystemEntry.toRow
    repeat refine ok_of_bind fun _ => ?_
    rintro _ ⟨⟩
    exact ⟨rfl, rfl⟩

/-- What happens to each of the three tables. -/
structure Happens where
  units : List (Event (Json × UnitEntry)) := []
  groups : List (Event GroupEntry) := []
  systems : List (Event SystemEntry) := []

namespace Happens

/-- Events on the three tables, and more events after them. -/
def append (events more : Happens) : Happens :=
  { units := events.units ++ more.units
    groups := events.groups ++ more.groups
    systems := events.systems ++ more.systems }

/-- What happens one after the other. -/
def flatMap {ι : Type} (xs : List ι) (f : ι → Happens) : Happens :=
  { units := xs.flatMap fun x => (f x).units
    groups := xs.flatMap fun x => (f x).groups
    systems := xs.flatMap fun x => (f x).systems }

/-- Nothing happens to a table in a loop of which no step does anything to it. -/
theorem flatMap_nothing {ι : Type} (xs : List ι) :
    xs.flatMap (fun _ => ([] : List (Event ε))) = [] :=
  List.flatMap_eq_nil_iff.mpr fun _ _ => rfl

/-- The rows below a timestamp are removed from all tables. -/
def pruned (cutoff : String) : Happens :=
  { units := [.prune cutoff], groups := [.prune cutoff], systems := [.prune cutoff] }

/-- All rows are removed. -/
def cleared : Happens :=
  { units := [.clear], groups := [.clear], systems := [.clear] }

end Happens

/-- The tables of one store come from those of another one by events. -/
structure Grows (events : Happens) (s t : Store) : Prop where
  units : unitSchema.replay events.units s.units = .ok t.units
  groups : groupSchema.replay events.groups s.groups = .ok t.groups
  systems : systemSchema.replay events.systems s.systems = .ok t.systems

namespace Grows

variable {s t u : Store} {events more : Happens} {stamp : String}

theorem refl (s : Store) : Grows {} s s :=
  ⟨rfl, rfl, rfl⟩

theorem trans (h : Grows events s t) (h' : Grows more t u) : Grows (events.append more) s u where
  units := Schema.replay_append h.units h'.units
  groups := Schema.replay_append h.groups h'.groups
  systems := Schema.replay_append h.systems h'.systems

/-- A store grows in a loop by what it grows by in each step. -/
theorem foldlM {ι : Type} {xs : List ι} {step : Store → ι → Except StoreError Store}
    {happens : ι → Happens} (hstep : ∀ s t x, step s x = .ok t → Grows (happens x) s t)
    (h : xs.foldlM step s = .ok t) : Grows (.flatMap xs happens) s t := by
  induction xs generalizing s with
  | nil =>
    cases h
    exact refl _
  | cons x xs ih =>
    obtain ⟨u, hu, h⟩ := bind_eq_ok.mp h
    exact (hstep _ u x hu).trans (ih h)

theorem appendUnit {groupId : Json} {e : UnitEntry} (h : s.appendUnit groupId e stamp = .ok t) :
    Grows { units := [.insert (groupId, e) stamp] } s t := by
  obtain ⟨table, htable, h⟩ := bind_eq_ok.mp h
  cases h
  exact ⟨Schema.replay_single.mpr htable, rfl, rfl⟩

theorem appendGroup {e : GroupEntry} (h : s.appendGroup e stamp = .ok t) :
    Grows { groups := [.insert e stamp] } s t := by
  obtain ⟨table, htable, h⟩ := bind_eq_ok.mp h
  cases h
  exact ⟨rfl, Schema.replay_single.mpr htable, rfl⟩

theorem appendSystem {e : SystemEntry} (h : s.appendSystem e stamp = .ok t) :
    Grows { systems := [.insert e stamp] } s t := by
  obtain ⟨table, htable, h⟩ := bind_eq_ok.mp h
  cases h
  exact ⟨rfl, rfl, Schema.replay_single.mpr htable⟩

/-- The units of a group come before the group. -/
theorem appendGroupWithUnits {e : GroupEntry} (h : s.appendGroupWithUnits e stamp = .ok t) :
    Grows { units := e.units.map fun u => .insert (e.groupId, u) stamp
            groups := [.insert e stamp] } s t := by
  obtain ⟨v, hv, h⟩ := bind_eq_ok.mp h
  have hstep : ∀ s t u, s.appendUnit e.groupId u stamp = .ok t →
      Grows { units := [.insert (e.groupId, u) stamp] } s t := fun _ _ _ => appendUnit
  have hunits := (foldlM hstep hv).trans (appendGroup h)
  simpa [Happens.append, Happens.flatMap, Happens.flatMap_nothing, List.map_eq_flatMap] using hunits

/-- The groups of a scan come before the system. -/
theorem storeScan {groups : List GroupEntry} {e : SystemEntry}
    (h : s.storeScan groups e stamp = .ok t) :
    Grows { units := groups.flatMap fun g => g.units.map fun u => .insert (g.groupId, u) stamp
            groups := groups.map fun g => .insert g stamp
            systems := [.insert e stamp] } s t := by
  obtain ⟨-, -, h⟩ := bind_eq_ok.mp h
  obtain ⟨v, hv, h⟩ := bind_eq_ok.mp h
  have hstep : ∀ s t g, s.appendGroupWithUnits g stamp = .ok t →
      Grows { units := g.units.map fun u => .insert (g.groupId, u) stamp
              groups := [.insert g stamp] } s t := fun _ _ _ => appendGroupWithUnits
  have hgroups := (foldlM hstep hv).trans (appendSystem h)
  simpa [Happens.append, Happens.flatMap, Happens.flatMap_nothing, List.map_eq_flatMap] using
    hgroups

theorem pruned (cutoff : String) : Grows (.pruned cutoff) s (s.without cutoff) :=
  ⟨rfl, rfl, rfl⟩

theorem cleared :
    Grows .cleared s { s with
      units := s.units.keep fun _ => false
      groups := s.groups.keep fun _ => false
      systems := s.systems.keep fun _ => false } :=
  ⟨rfl, rfl, rfl⟩

end Grows

theorem storeScan_rollback {s t : Store} {groups : List GroupEntry} {e : SystemEntry}
    {stamp : String} (h : s.storeScan groups e stamp = .ok t) : t.rollback s = s := by
  obtain ⟨-, -, h⟩ := bind_eq_ok.mp h
  exact Session.insertScan_onTables.after (Session.after_insertScan groups e stamp s ▸ h)

/-- The tables of a store are what happened to them. -/
structure Recorded (past : Happens) (s : Store) : Prop where
  units : unitSchema.Holds past.units s.units
  groups : groupSchema.Holds past.groups s.groups
  systems : systemSchema.Holds past.systems s.systems

/-! ## Journals of operations -/

namespace Operation

open Session

/-- The timestamp below which a pruning removes rows. -/
def cutoff? (retention : Int) (days : Option Json) (now : String) : Option String := do
  let period ← days.elim (some retention) fun d => (clampRetention d).toOption
  Timestamp.daysBefore? period.toNat now

/-- What happens to the tables in an operation that succeeds, under a retention period. -/
def happens (retention : Int) : Operation → Happens
  | unit groupId e stamp => { units := [.insert (groupId, e) stamp] }
  | group e stamp => { groups := [.insert e stamp] }
  | system e stamp => { systems := [.insert e stamp] }
  | scan groups e stamp =>
    { units := groups.flatMap fun g => g.units.map fun u => .insert (g.groupId, u) stamp
      groups := groups.map fun g => .insert g stamp
      systems := [.insert e stamp] }
  | prune days now => ((cutoff? retention days now).map .pruned).getD {}
  | clear => .cleared
  | _ => {}

/-- The retention period after an operation that succeeds. -/
def retentionAfter (retention : Int) : Operation → Int
  | setRetention days | reopen days => (clampRetention days).toOption.getD retention
  | _ => retention

/-- Is a store open after an operation? -/
def isOpenAfter (isOpen : Bool) : Operation → Bool
  | close => false
  | reopen _ => true
  | _ => isOpen

/-- What happens to the tables in operations that all succeed. -/
def journal : Int → List Operation → Happens
  | _, [] => {}
  | retention, op :: ops =>
    (op.happens retention).append (journal (op.retentionAfter retention) ops)

/-- What an operation that succeeds makes of a store. -/
structure Steps (op : Operation) (s t : Store) : Prop where
  tables : Grows (op.happens s.retentionDays) s t
  retention : t.retentionDays = op.retentionAfter s.retentionDays
  isOpen : t.isOpen = op.isOpenAfter s.isOpen

section Step

variable {α : Type} {s t : Store}

theorem after_answer {c : Session α} {f : α → Answer} : after (do return f (← c)) = after c := by
  funext s
  unfold after
  rw [outcome_bind]
  obtain ⟨x, t⟩ := outcome c s
  cases x <;> rfl

theorem after_statement (f : Store → Except StoreError (α × Store)) (s : Store) :
    after (statement f) s = (f s).map Prod.snd := by
  unfold after
  rw [outcome_statement]
  cases f s <;> rfl

theorem after_query {f : Store → Except StoreError α} {g : α → Answer}
    (h : after (do return g (← query f)) s = .ok t) : t = s := by
  rw [after_answer, after, outcome_query] at h
  cases hf : f s with
  | ok a =>
    rw [hf] at h
    cases h
    rfl
  | error e =>
    rw [hf] at h
    cases h

/-- A store that only differs in its tables. -/
theorem Steps.ofTables {op : Operation} (htables : Grows (op.happens s.retentionDays) s t)
    (hrest : t.rollback s = s) (hretention : op.retentionAfter s.retentionDays = s.retentionDays)
    (hopen : op.isOpenAfter s.isOpen = s.isOpen) : Steps op s t :=
  have hsame := rollback_eq_iff.mp hrest
  ⟨htables, hsame.1.trans hretention.symm, hsame.2.trans hopen.symm⟩

theorem getD_of_clampRetention {days : Json} {n retention : Int}
    (h : (clampRetention days).mapError StoreError.value = .ok n) :
    (clampRetention days).toOption.getD retention = n := by
  rw [mapError_eq_ok.mp h]
  rfl

/-- A pruning that succeeds removes what is below its cutoff. -/
theorem exists_cutoff_of_prune {days : Option Json} {now : String} {removed : Nat} {period : Int}
    (h : s.prune days now = .ok (t, removed, period)) :
    ∃ cutoff, cutoff? s.retentionDays days now = some cutoff ∧ t = s.without cutoff := by
  obtain ⟨n, hn, h⟩ := bind_eq_ok.mp h
  have hperiod :
      (days.elim (some s.retentionDays) fun d => (clampRetention d).toOption) = some n := by
    cases days with
    | none =>
      cases hn
      rfl
    | some d => exact congrArg Except.toOption (mapError_eq_ok.mp hn)
  have hcutoff : cutoff? s.retentionDays days now = Timestamp.daysBefore? n.toNat now := by
    rw [cutoff?, hperiod]
    rfl
  cases hbefore : Timestamp.daysBefore? n.toNat now with
  | none =>
    rw [hbefore] at h
    cases h
  | some cutoff =>
    rw [hbefore] at h
    obtain ⟨-, -, h⟩ := bind_eq_ok.mp h
    cases h
    exact ⟨cutoff, hcutoff.trans hbefore, rfl⟩

/-- An operation that succeeds does to the tables what is written down for it. -/
theorem steps_perform (op : Operation) (h : after op.perform s = .ok t) : Steps op s t := by
  cases op with
  | unit groupId e stamp =>
    rw [perform, Session.storeUnit_eq, after_answer, after_change] at h
    obtain ⟨-, -, h⟩ := bind_eq_ok.mp h
    exact .ofTables (.appendUnit h) (appendUnit_rollback h) rfl rfl
  | group e stamp =>
    rw [perform, Session.storeGroup_eq, after_answer, after_change] at h
    obtain ⟨-, -, h⟩ := bind_eq_ok.mp h
    exact .ofTables (.appendGroup h) (appendGroup_rollback h) rfl rfl
  | system e stamp =>
    rw [perform, Session.storeSystem_eq, after_answer, after_change] at h
    obtain ⟨-, -, h⟩ := bind_eq_ok.mp h
    exact .ofTables (.appendSystem h) (appendSystem_rollback h) rfl rfl
  | scan groups e stamp =>
    rw [perform, Session.storeScan_eq, after_answer, after_change] at h
    exact .ofTables (.storeScan h) (storeScan_rollback h) rfl rfl
  | latest | groupHistory | unitHistory | systemHistory | stats =>
    cases after_query h
    exact .ofTables (.refl s) rfl rfl rfl
  | setRetention days =>
    rw [perform, after_bind, after_change] at h
    obtain ⟨u, hu, h⟩ := bind_eq_ok.mp h
    obtain ⟨n, hn, hu⟩ := bind_eq_ok.mp hu
    cases hu
    cases h
    exact ⟨⟨rfl, rfl, rfl⟩, (getD_of_clampRetention hn).symm, rfl⟩
  | prune days now =>
    rw [perform, after_statement] at h
    cases hprune : s.prune days now with
    | error e =>
      rw [hprune] at h
      cases h
    | ok pruned =>
      obtain ⟨u, removed, period⟩ := pruned
      rw [hprune] at h
      cases h
      obtain ⟨cutoff, hcutoff, rfl⟩ := exists_cutoff_of_prune hprune
      refine .ofTables ?_ rfl rfl rfl
      rw [happens, hcutoff]
      exact .pruned cutoff
  | clear =>
    rw [perform, after_answer, after_change] at h
    obtain ⟨-, -, h⟩ := bind_eq_ok.mp h
    cases h
    exact .ofTables .cleared rfl rfl rfl
  | close =>
    cases h
    exact ⟨⟨rfl, rfl, rfl⟩, rfl, rfl⟩
  | reopen days =>
    rw [perform, after_bind, after_change] at h
    obtain ⟨u, hu, h⟩ := bind_eq_ok.mp h
    obtain ⟨n, hn, hu⟩ := bind_eq_ok.mp hu
    cases hu
    cases h
    exact ⟨⟨rfl, rfl, rfl⟩, (getD_of_clampRetention hn).symm, rfl⟩

/-- Operations that all succeed do to the tables what their journal says. -/
theorem grows_stepAll {ops : List Operation} (h : stepAll ops s = .ok t) :
    Grows (journal s.retentionDays ops) s t := by
  induction ops generalizing s with
  | nil =>
    cases h
    exact .refl _
  | cons op ops ih =>
    obtain ⟨u, hu, h⟩ := bind_eq_ok.mp h
    have hstep := steps_perform op hu
    -- What later prunings remove depends on the retention period that this operation leaves.
    have hrest := ih h
    rw [hstep.retention] at hrest
    exact hstep.tables.trans hrest

/-- A store stays open as long as nobody closes it. -/
theorem isOpen_stepAll {ops : List Operation} (hops : ∀ op ∈ ops, op ≠ .close)
    (h : stepAll ops s = .ok t) (hopen : s.isOpen = true) : t.isOpen = true := by
  induction ops generalizing s with
  | nil =>
    cases h
    exact hopen
  | cons op ops ih =>
    obtain ⟨u, hu, h⟩ := bind_eq_ok.mp h
    refine ih (fun op' hop' => hops op' (List.mem_cons_of_mem _ hop')) h ?_
    rw [(steps_perform op hu).isOpen]
    cases op with
    | close => exact absurd rfl (hops .close List.mem_cons_self)
    | reopen days => rfl
    | _ => exact hopen

end Step

theorem succeeded_sublist (ops : List Operation) (s : Store) : (succeeded ops s).Sublist ops := by
  induction ops generalizing s with
  | nil => exact .slnil
  | cons op ops ih =>
    rw [succeeded]
    obtain ⟨answer, t⟩ := outcome op.perform s
    dsimp only
    split
    · exact (ih t).cons_cons op
    · exact (ih t).cons op

/-- What happened on a fresh store, failures left out. -/
def past (retention : Int) (ops : List Operation) : Happens :=
  journal retention (succeeded ops { retentionDays := retention })

/-- The tables after operations on a fresh store, whether or not some of them failed. -/
theorem recorded_run (retention : Int) (ops : List Operation) :
    Recorded (past retention ops) (run ops { retentionDays := retention }).2 := by
  have hgrows := grows_stepAll (stepAll_succeeded ops { retentionDays := retention })
  exact ⟨.replay (.empty _) hgrows.units, .replay (.empty _) hgrows.groups,
    .replay (.empty _) hgrows.systems⟩

end Operation

end FlowLint.Store
