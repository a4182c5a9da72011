import FlowLint.Store.Session

/-!
# Transactions

A session that fails may leave some of its rows behind; a transaction leaves all of them or none.
This module says what a session leaves, that no operation on a store leaves anything when it fails,
and that a scan is stored at once exactly if its records can be stored one after the other.

* `Session.AllOrNothing`: where the session fails, the store is as it was.
* `Session.after`: the store that a session leaves where it succeeds.
* `Session.storeScan_eq`: storing a scan in a transaction is `Store.storeScan`.
* `Operation.perform_allOrNothing`: every operation is all or nothing, so that a run leaves what
  the operations of it leave that succeed (`Operation.stepAll_succeeded`).
* `Operation.scan_allOrNothing`: a scan at once, and its records one by one.
-/

namespace FlowLint.Store

/-! ## Stores that differ in their tables -/

/-- A rollback gives an earlier store back if only the tables have changed since. -/
theorem rollback_eq_iff {s t : Store} :
    t.rollback s = s ↔ t.retentionDays = s.retentionDays ∧ t.isOpen = s.isOpen := by
  obtain ⟨_, _, _, _, _⟩ := s
  simp [rollback]

theorem rollback_trans {s t u : Store} (hst : t.rollback s = s) (htu : u.rollback t = t) :
    u.rollback s = s := by
  obtain ⟨hdays, hopen⟩ := rollback_eq_iff.mp hst
  obtain ⟨hdays', hopen'⟩ := rollback_eq_iff.mp htu
  exact rollback_eq_iff.mpr ⟨hdays'.trans hdays, hopen'.trans hopen⟩

section Append

variable {s t : Store} {stamp : String}

/-- A store that is made of another one by writing a table. -/
theorem rollback_of_write {ρ : Type} {x : Except StoreError ρ} {write : ρ → Store}
    (h : (do return write (← x)) = .ok t) (hwrite : ∀ table, (write table).rollback s = s) :
    t.rollback s = s := by
  cases x with
  | error e => cases h
  | ok table =>
    cases h
    exact hwrite table

theorem appendUnit_rollback {groupId : Json} {e : UnitEntry}
    (h : s.appendUnit groupId e stamp = .ok t) : t.rollback s = s := by
  rw [appendUnit] at h
  exact rollback_of_write h fun _ => rfl

theorem appendGroup_rollback {e : GroupEntry} (h : s.appendGroup e stamp = .ok t) :
    t.rollback s = s := by
  rw [appendGroup] at h
  exact rollback_of_write h fun _ => rfl

theorem appendSystem_rollback {e : SystemEntry} (h : s.appendSystem e stamp = .ok t) :
    t.rollback s = s := by
  rw [appendSystem] at h
  exact rollback_of_write h fun _ => rfl

end Append

namespace Session

variable {α β ι : Type}

/-! ## Outcomes -/

@[simp]
theorem outcome_get (s : Store) : outcome get s = (.ok s, s) :=
  rfl

/-- A failure ends a session, and what was done before it stays done. -/
theorem outcome_bind (c : Session α) (k : α → Session β) (s : Store) :
    outcome (c >>= k) s =
      match outcome c s with
      | (.ok a, t) => outcome (k a) t
      | (.error e, t) => (.error e, t) := by
  unfold outcome ExceptT.run StateT.run Id.run
  simp only [bind, ExceptT.bind, ExceptT.mk, StateT.bind, ExceptT.bindCont]
  cases c s with
  | mk x t => cases x <;> rfl

theorem outcome_tryCatch (c : Session α) (k : StoreError → Session α) (s : Store) :
    outcome (tryCatch c k) s =
      match outcome c s with
      | (.ok a, t) => (.ok a, t)
      | (.error e, t) => outcome (k e) t := by
  unfold outcome ExceptT.run StateT.run Id.run
  simp only [tryCatch, tryCatchThe, MonadExceptOf.tryCatch, ExceptT.tryCatch, ExceptT.mk, bind,
    StateT.bind]
  cases c s with
  | mk x t => cases x <;> rfl

theorem outcome_statement (f : Store → Except StoreError (α × Store)) (s : Store) :
    outcome (statement f) s =
      match f s with
      | .ok (a, t) => (.ok a, t)
      | .error e => (.error e, s) := by
  simp only [statement, outcome_bind, outcome_get]
  cases f s <;> rfl

theorem outcome_query (f : Store → Except StoreError α) (s : Store) :
    outcome (query f) s = (f s, s) := by
  rw [query, outcome_statement]
  cases f s <;> rfl

theorem outcome_change (f : Store → Except StoreError Store) (s : Store) :
    outcome (change f) s =
      match f s with
      | .ok t => (.ok (), t)
      | .error e => (.error e, s) := by
  rw [change, outcome_statement]
  cases f s <;> rfl

theorem outcome_transaction (c : Session α) (s : Store) :
    outcome (transaction c) s =
      match s.opened, outcome c s with
      | .error e, _ => (.error e, s)
      | .ok (), (.ok a, t) => (.ok a, t)
      | .ok (), (.error e, t) => (.error e, t.rollback s) := by
  rw [transaction, outcome_bind, outcome_query]
  cases s.opened with
  | error e => rfl
  | ok =>
    simp only [outcome_bind, outcome_get, outcome_tryCatch]
    cases outcome c s with
    | mk x t => cases x <;> rfl

/-- Two sessions with the same outcomes are the same. -/
theorem ext {c d : Session α} (h : ∀ s, outcome c s = outcome d s) : c = d :=
  funext h

/-! ## Sessions that only change tables -/

/-- The session changes nothing of a store but its tables. -/
def OnTables (c : Session α) : Prop :=
  ∀ s, (outcome c s).2.rollback s = s

theorem OnTables.bind {c : Session α} {k : α → Session β} (hc : OnTables c)
    (hk : ∀ a, OnTables (k a)) : OnTables (c >>= k) := by
  intro s
  have hs := hc s
  rw [outcome_bind]
  generalize outcome c s = o at hs ⊢
  obtain ⟨x, t⟩ := o
  cases x with
  | ok a => exact rollback_trans hs (hk a t)
  | error e => exact hs

theorem OnTables.forM {xs : List ι} {k : ι → Session Unit} (hk : ∀ x, OnTables (k x)) :
    OnTables (xs.forM k) := by
  induction xs with
  | nil => exact fun s => rfl
  | cons x xs ih => exact (hk x).bind fun _ => ih

theorem OnTables.change {f : Store → Except StoreError Store}
    (hf : ∀ s t, f s = .ok t → t.rollback s = s) : OnTables (change f) := by
  intro s
  rw [outcome_change]
  cases h : f s with
  | ok t => exact hf s t h
  | error e => rfl

theorem insertUnit_onTables {groupId : Json} {e : UnitEntry} {stamp : String} :
    OnTables (insertUnit groupId e stamp) :=
  .change fun _ _ => appendUnit_rollback

theorem insertGroup_onTables {e : GroupEntry} {stamp : String} : OnTables (insertGroup e stamp) :=
  .change fun _ _ => appendGroup_rollback

theorem insertSystem_onTables {e : SystemEntry} {stamp : String} :
    OnTables (insertSystem e stamp) :=
  .change fun _ _ => appendSystem_rollback

theorem insertGroupWithUnits_onTables {e : GroupEntry} {stamp : String} :
    OnTables (insertGroupWithUnits e stamp) :=
  .bind (.forM fun _ => insertUnit_onTables) fun _ => insertGroup_onTables

theorem insertScan_onTables {groups : List GroupEntry} {system : SystemEntry} {stamp : String} :
    OnTables (insertScan groups system stamp) :=
  .bind (.forM fun _ => insertGroupWithUnits_onTables) fun _ => insertSystem_onTables

/-! ## All or nothing -/

/-- Where the session fails, the store is as it was. -/
def AllOrNothing (c : Session α) : Prop :=
  ∀ s e t, outcome c s = (.error e, t) → t = s

theorem statement_allOrNothing (f : Store → Except StoreError (α × Store)) :
    AllOrNothing (statement f) := by
  intro s e t h
  rw [outcome_statement] at h
  cases hf : f s with
  | ok p =>
    rw [hf] at h
    cases h
  | error e' =>
    rw [hf] at h
    cases h
    rfl

/-- A transaction that only changes tables is all or nothing. -/
theorem transaction_allOrNothing {c : Session α} (hc : OnTables c) :
    AllOrNothing (transaction c) := by
  intro s e t h
  have hs := hc s
  rw [outcome_transaction] at h
  cases hopen : s.opened with
  | error e' =>
    rw [hopen] at h
    cases h
    rfl
  | ok =>
    rw [hopen] at h
    generalize outcome c s = o at hs h
    obtain ⟨x, u⟩ := o
    cases x with
    | ok a => cases h
    | error e' =>
      cases h
      exact hs

/-- A session stays all or nothing if what comes after it cannot fail. -/
theorem AllOrNothing.bind {c : Session α} {k : α → Session β} (hc : AllOrNothing c)
    (hk : ∀ a s, ∃ b t, outcome (k a) s = (.ok b, t)) : AllOrNothing (c >>= k) := by
  intro s e t h
  have hs := hc s
  rw [outcome_bind] at h
  generalize outcome c s = o at hs h
  obtain ⟨x, u⟩ := o
  cases x with
  | ok a =>
    obtain ⟨b, v, hb⟩ := hk a u
    cases hb.symm.trans h
  | error e' =>
    cases h
    exact hs e t rfl

/-- A session stays all or nothing when its result is turned into an answer. -/
theorem AllOrNothing.answer {c : Session α} {f : α → β} (hc : AllOrNothing c) :
    AllOrNothing (do return f (← c)) :=
  hc.bind fun a s => ⟨f a, s, rfl⟩

/-! ## The store after a session -/

/-- The store that a session leaves, if it succeeds. -/
def after (c : Session α) (s : Store) : Except StoreError Store :=
  match outcome c s with
  | (.ok _, t) => .ok t
  | (.error e, _) => .error e

theorem after_bind (c : Session α) (d : Session β) (s : Store) :
    after (c >>= fun _ => d) s = after c s >>= after d := by
  unfold after
  rw [outcome_bind]
  obtain ⟨x, t⟩ := outcome c s
  cases x <;> rfl

theorem after_forM (xs : List ι) (k : ι → Session Unit) (s : Store) :
    after (xs.forM k) s = xs.foldlM (fun s x => after (k x) s) s := by
  induction xs generalizing s with
  | nil => rfl
  | cons x xs ih =>
    have hcons : (x :: xs).forM k = (k x >>= fun _ => xs.forM k) := rfl
    rw [hcons, after_bind, List.foldlM_cons]
    exact bind_congr ih

@[simp]
theorem after_change (f : Store → Except StoreError Store) : after (change f) = f := by
  funext s
  rw [after, outcome_change]
  cases f s <;> rfl

/-- A session that only changes tables leaves the same store but for its tables. -/
theorem OnTables.after {c : Session α} (hc : OnTables c) {s t : Store} (h : after c s = .ok t) :
    t.rollback s = s := by
  have hs := hc s
  unfold Session.after at h
  generalize outcome c s = o at hs h
  obtain ⟨x, u⟩ := o
  cases x with
  | ok a =>
    cases h
    exact hs
  | error e => cases h

theorem after_transaction (c : Session α) (s : Store) :
    after (transaction c) s = s.opened >>= fun _ => after c s := by
  unfold after
  rw [outcome_transaction]
  cases s.opened with
  | error e => rfl
  | ok =>
    generalize outcome c s = o
    obtain ⟨x, t⟩ := o
    cases x <;> rfl

/-- What is all or nothing is a single change. -/
theorem AllOrNothing.eq_change {c : Session Unit} (hc : AllOrNothing c) : c = change (after c) := by
  refine ext fun s => ?_
  have hs := hc s
  rw [outcome_change]
  unfold after
  generalize outcome c s = o at hs ⊢
  obtain ⟨x, t⟩ := o
  cases x with
  | ok => rfl
  | error e => rw [hs e t rfl]

/-! ## Transactions in a row -/

/-- Two transactions leave what one transaction of both leaves, if all succeeds. -/
theorem after_transaction_bind {c : Session α} {d : Session β} (hc : OnTables c) :
    after (transaction c >>= fun _ => transaction d) =
      after (transaction (c >>= fun _ => d)) := by
  funext s
  simp only [after_bind, after_transaction]
  cases hopen : s.opened with
  | error e => rfl
  | ok =>
    cases ht : after c s with
    | error e => simp [bind, Except.bind]
    | ok t =>
      -- The first transaction does not close the store, so the second one finds it open.
      have hopen' : t.opened = .ok () := by
        have hsame := (rollback_eq_iff.mp (hc.after ht)).2
        rwa [opened, hsame, ← opened]
      simp [bind, Except.bind, hopen', after_transaction]

theorem after_transaction_forM {xs : List ι} {k : ι → Session Unit} {d : Session Unit}
    (hk : ∀ x, OnTables (k x)) :
    after ((xs.forM fun x => transaction (k x)) >>= fun _ => transaction d) =
      after (transaction (xs.forM k >>= fun _ => d)) := by
  induction xs with
  | nil => rfl
  | cons x xs ih =>
    have hcons : (x :: xs).forM k >>= (fun _ => d) = k x >>= fun _ => xs.forM k >>= fun _ => d :=
      bind_assoc ..
    have hcons' : ((x :: xs).forM fun x => transaction (k x)) >>= (fun _ => transaction d) =
        transaction (k x) >>= fun _ => (xs.forM fun x => transaction (k x)) >>= fun _ =>
          transaction d :=
      bind_assoc ..
    rw [hcons, hcons', ← after_transaction_bind (hk x)]
    funext s
    rw [after_bind, after_bind, ih]

/-! ## Writes -/

theorem after_insertGroupWithUnits (e : GroupEntry) (stamp : String) :
    after (insertGroupWithUnits e stamp) = (·.appendGroupWithUnits e stamp) := by
  funext s
  rw [insertGroupWithUnits, after_bind, after_forM]
  simp only [insertUnit, insertGroup, after_change]
  rfl

theorem after_insertScan (groups : List GroupEntry) (system : SystemEntry) (stamp : String)
    (s : Store) :
    after (insertScan groups system stamp) s =
      groups.foldlM (fun s g => s.appendGroupWithUnits g stamp) s >>=
        (·.appendSystem system stamp) := by
  rw [insertScan, after_bind, after_forM]
  simp only [after_insertGroupWithUnits, insertSystem, after_change]

/-- A transaction on tables is the change that its statements make on an open store. -/
theorem transaction_eq_change {c : Session Unit} (hc : OnTables c) :
    transaction c = change fun s => s.opened >>= fun _ => after c s := by
  rw [(transaction_allOrNothing hc).eq_change]
  exact congrArg change (funext (after_transaction c))

theorem storeUnit_eq (groupId : Json) (e : UnitEntry) (stamp : String) :
    storeUnit groupId e stamp = change (·.storeUnit groupId e stamp) := by
  rw [storeUnit, transaction_eq_change insertUnit_onTables, insertUnit, after_change]
  rfl

theorem storeGroup_eq (e : GroupEntry) (stamp : String) :
    storeGroup e stamp = change (·.storeGroup e stamp) := by
  rw [storeGroup, transaction_eq_change insertGroup_onTables, insertGroup, after_change]
  rfl

theorem storeSystem_eq (e : SystemEntry) (stamp : String) :
    storeSystem e stamp = change (·.storeSystem e stamp) := by
  rw [storeSystem, transaction_eq_change insertSystem_onTables, insertSystem, after_change]
  rfl

/-- Storing a scan in a transaction is storing it as a whole. -/
theorem storeScan_eq (groups : List GroupEntry) (system : SystemEntry) (stamp : String) :
    storeScan groups system stamp = change (·.storeScan groups system stamp) := by
  rw [storeScan, transaction_eq_change insertScan_onTables]
  simp only [after_insertScan]
  rfl

end Session

namespace Operation

open Session

variable {s t : Store}

/-! ## Operations -/

/-- An operation that fails leaves the store as it was. -/
theorem perform_allOrNothing (op : Operation) : AllOrNothing op.perform := by
  have done {c : Session Unit} (hc : AllOrNothing c) :
      AllOrNothing (do c; return Answer.done) :=
    hc.answer
  cases op with
  | unit groupId record stamp => exact done (transaction_allOrNothing insertUnit_onTables)
  | group record stamp => exact done (transaction_allOrNothing insertGroup_onTables)
  | system record stamp => exact done (transaction_allOrNothing insertSystem_onTables)
  | scan groups record stamp => exact done (transaction_allOrNothing insertScan_onTables)
  | latest groupId => exact (statement_allOrNothing _).answer
  | groupHistory groupId limit => exact (statement_allOrNothing _).answer
  | unitHistory groupId unitId limit => exact (statement_allOrNothing _).answer
  | systemHistory limit => exact (statement_allOrNothing _).answer
  | stats => exact (statement_allOrNothing _).answer
  | setRetention days => exact (statement_allOrNothing _).bind fun _ s => ⟨_, s, rfl⟩
  | prune days now => exact statement_allOrNothing _
  | clear => exact done (statement_allOrNothing _)
  | close =>
    intro s e t h
    cases h
  | reopen days => exact (statement_allOrNothing _).bind fun _ s => ⟨_, s, rfl⟩

/-- The store after operations that all succeed, or why the first one fails that does. -/
def stepAll (ops : List Operation) (s : Store) : Except StoreError Store :=
  ops.foldlM (fun s op => after op.perform s) s

theorem stepAll_cons (op : Operation) (ops : List Operation) (s : Store) :
    stepAll (op :: ops) s = after op.perform s >>= stepAll ops :=
  rfl

theorem stepAll_append (ops ops' : List Operation) (s : Store) :
    stepAll (ops ++ ops') s = stepAll ops s >>= stepAll ops' :=
  List.foldlM_append

theorem run_cons (op : Operation) (ops : List Operation) (s : Store) :
    run (op :: ops) s =
      let (answer, t) := outcome op.perform s
      (answer :: (run ops t).1, (run ops t).2) :=
  rfl

/-- Operations all succeed exactly if no answer to them is a failure. -/
theorem stepAll_ok_iff {ops : List Operation} :
    stepAll ops s = .ok t ↔ (∀ answer ∈ (run ops s).1, answer.isOk) ∧ (run ops s).2 = t := by
  induction ops generalizing s with
  | nil => simp [stepAll, run, pure, Except.pure]
  | cons op ops ih =>
    rw [stepAll_cons, run_cons, after]
    obtain ⟨answer, u⟩ := outcome op.perform s
    cases answer with
    | ok value => simpa [bind, Except.bind, Except.isOk, Except.toBool] using ih
    | error e => simp [bind, Except.bind, Except.isOk, Except.toBool]

/-- The operations of a run that succeed. -/
def succeeded : List Operation → Store → List Operation
  | [], _ => []
  | op :: ops, s =>
    let (answer, t) := outcome op.perform s
    if answer.isOk then op :: succeeded ops t else succeeded ops t

/-- A run leaves what its operations leave that succeed. -/
theorem stepAll_succeeded (ops : List Operation) (s : Store) :
    stepAll (succeeded ops s) s = .ok (run ops s).2 := by
  induction ops generalizing s with
  | nil => rfl
  | cons op ops ih =>
    rw [succeeded, run_cons]
    cases houtcome : outcome op.perform s with
    | mk answer t =>
      cases answer with
      | ok value =>
        have hafter : after op.perform s = .ok t := by rw [after, houtcome]
        have hcons : stepAll (op :: succeeded ops t) s = stepAll (succeeded ops t) t := by
          rw [stepAll_cons, hafter]
          rfl
        exact hcons.trans (ih t)
      | error e =>
        have hsame : t = s := perform_allOrNothing op s e t houtcome
        rw [hsame]
        exact ih s

/-! ## A scan, record by record -/

/-- The records of a group, stored one by one: its units, then the group. -/
def ofGroup (e : GroupEntry) (stamp : String) : List Operation :=
  e.units.map (fun u => .unit e.groupId u stamp) ++ [.group e stamp]

/-- The records of a scan, stored one by one: group after group, then the system. -/
def ofScan (groups : List GroupEntry) (record : SystemEntry) (stamp : String) : List Operation :=
  groups.flatMap (fun g => ofGroup g stamp) ++ [.system record stamp]

/-- Operations that are transactions leave in a row what one transaction of all leaves. -/
theorem stepAll_flatMap {ι : Type} {xs : List ι} {part : ι → List Operation}
    {last : List Operation} {k : ι → Session Unit} {d : Session Unit}
    (hpart : ∀ x, stepAll (part x) = after (transaction (k x)))
    (hlast : stepAll last = after (transaction d)) (hk : ∀ x, OnTables (k x)) :
    stepAll (xs.flatMap part ++ last) = after (transaction (xs.forM k >>= fun _ => d)) := by
  have hparts : ∀ s, stepAll (xs.flatMap part) s =
      after (xs.forM fun x => transaction (k x)) s := by
    intro s
    rw [after_forM]
    induction xs generalizing s with
    | nil => rfl
    | cons x xs ih =>
      rw [List.flatMap_cons, stepAll_append, List.foldlM_cons, hpart]
      exact bind_congr ih
  funext s
  rw [stepAll_append, hparts, hlast, ← after_bind, after_transaction_forM hk]

theorem stepAll_done {c : Session Unit} {op : Operation}
    (hop : op.perform = do c; return Answer.done) : stepAll [op] = after c := by
  funext s
  rw [stepAll_cons, hop, after_bind]
  cases after c s <;> rfl

theorem stepAll_ofGroup (e : GroupEntry) (stamp : String) :
    stepAll (ofGroup e stamp) = after (transaction (insertGroupWithUnits e stamp)) := by
  rw [ofGroup, List.map_eq_flatMap]
  exact stepAll_flatMap (fun _ => stepAll_done rfl) (stepAll_done rfl)
    fun _ => insertUnit_onTables

/-- Storing the records of a scan one by one leaves what storing it as a whole leaves. -/
theorem stepAll_ofScan (groups : List GroupEntry) (record : SystemEntry) (stamp : String) :
    stepAll (ofScan groups record stamp) = stepAll [.scan groups record stamp] := by
  have hscan : stepAll [.scan groups record stamp] =
      after (transaction (insertScan groups record stamp)) :=
    stepAll_done rfl
  rw [hscan, ofScan]
  exact stepAll_flatMap (fun g => stepAll_ofGroup g stamp) (stepAll_done rfl)
    fun _ => insertGroupWithUnits_onTables

/-- **All or nothing.** A scan is stored exactly if its records can be stored one by one, and then
both leave the same store. A scan that fails leaves the store as it was, so that whatever is asked
later is answered as if the scan had never been. -/
theorem scan_allOrNothing (groups : List GroupEntry) (record : SystemEntry) (stamp : String) (s : Store) :
    let stored := outcome (scan groups record stamp).perform s
    let oneByOne := run (ofScan groups record stamp) s
    (stored.1.isOk ↔ ∀ answer ∈ oneByOne.1, answer.isOk) ∧
      (stored.1.isOk → stored.2 = oneByOne.2) ∧
      ∀ e, stored.1 = .error e →
        stored.2 = s ∧
          ∀ later, run (scan groups record stamp :: later) s =
            (.error e :: (run later s).1, (run later s).2) := by
  intro stored oneByOne
  have hrun : run [scan groups record stamp] s = ([stored.1], stored.2) := rfl
  have hsame : ∀ t, (stored.1.isOk ∧ stored.2 = t) ↔
      (∀ answer ∈ oneByOne.1, answer.isOk) ∧ oneByOne.2 = t := by
    intro t
    rw [← stepAll_ok_iff, stepAll_ofScan, stepAll_ok_iff, hrun]
    simp
  refine ⟨⟨fun hok => ?_, fun hok => ?_⟩, fun hok => ?_, fun e he => ?_⟩
  · exact ((hsame _).mp ⟨hok, rfl⟩).1
  · exact ((hsame _).mpr ⟨hok, rfl⟩).1
  · exact ((hsame _).mp ⟨hok, rfl⟩).2.symm
  · have hleft : stored.2 = s :=
      perform_allOrNothing (scan groups record stamp) s e stored.2 (Prod.ext he rfl)
    refine ⟨hleft, fun later => ?_⟩
    have hcons : run (scan groups record stamp :: later) s =
        (stored.1 :: (run later stored.2).1, (run later stored.2).2) := rfl
    rw [hcons, he, hleft]

/-- A group without a name cannot be stored. Its unit, which comes first, is written, and taken
back in a transaction. -/
example :
    let groups : List GroupEntry := [{ groupName := .null, units := [{}] }]
    (outcome (insertScan groups {} "") {}).2.units.lastId = 1 ∧
      (outcome (Session.storeScan groups {} "") {}).2.units.lastId = 0 := by
  decide +kernel

end Operation

end FlowLint.Store
