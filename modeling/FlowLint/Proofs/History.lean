import FlowLint.Proofs.Journal
import FlowLint.Proofs.Stored

/-!
# What is read from a store

Every read is determined by the rows of the tables, and these by what happened to the store
before.

* `Table.NewestFirst`: the order in which rows are listed (`Table.newestFirst_newestFirst`).
* `Store.Readable`: what each read gives, in terms of the rows. It holds of any open store whose
  rows have increasing identifiers (`Store.readable`).
* `Store.KeepsValues`: the values of records in the rows.
* `Store.Operation.run_determines_reads`: the rows of a store that was fresh before some
  operations, and what is read from it.
* `Store.systemHistory_refuses_large_limit`: a limit beyond 64 bits is refused.
-/

namespace FlowLint

variable {ρ : Type}

/-! ## Order -/

/-- Rows in the order of their timestamps, the greatest first. Of rows with one timestamp the last
one written comes first. -/
structure Table.NewestFirst (createdAt : ρ → String) (id : ρ → Nat) (rows listed : List ρ) :
    Prop where
  perm : listed.Perm rows
  ordered : listed.Pairwise fun a b =>
    createdAt b < createdAt a ∨ createdAt a = createdAt b ∧ id b < id a

theorem Table.newestFirst_newestFirst {createdAt : ρ → String} {id : ρ → Nat} {rows : List ρ}
    (hrows : rows.Pairwise fun r r' => id r < id r') :
    NewestFirst createdAt id rows (newestFirst createdAt id rows) where
  perm := List.mergeSort_perm _ _
  ordered := by
    -- The order of the sort allows for equal rows; there are none, since identifiers differ.
    have hdistinct : (newestFirst createdAt id rows).Pairwise fun a b => id a ≠ id b :=
      ((List.mergeSort_perm _ _).pairwise_iff Ne.symm).mpr (hrows.imp Nat.ne_of_lt)
    have hordered : (newestFirst createdAt id rows).Pairwise fun a b =>
        (createdAt b < createdAt a || (createdAt a = createdAt b && id b ≤ id a)) = true := by
      apply List.pairwise_mergeSort
      · intro a b c hab hbc
        simp only [Bool.or_eq_true, Bool.and_eq_true, decide_eq_true_eq] at hab hbc ⊢
        rcases hab with hab | ⟨hab, hid⟩ <;> rcases hbc with hbc | ⟨hbc, hid'⟩
        · exact .inl (String.lt_trans hbc hab)
        · exact .inl (hbc ▸ hab)
        · exact .inl (hab ▸ hbc)
        · exact .inr ⟨hab.trans hbc, Nat.le_trans hid' hid⟩
      · intro a b
        simp only [Bool.or_eq_true, Bool.and_eq_true, decide_eq_true_eq]
        by_cases hab : createdAt a < createdAt b
        · exact .inr (.inl hab)
        by_cases hba : createdAt b < createdAt a
        · exact .inl (.inl hba)
        have hsame : createdAt a = createdAt b :=
          String.le_antisymm (String.not_lt.mp hba) (String.not_lt.mp hab)
        exact (Nat.le_total (id b) (id a)).imp (.inr ⟨hsame, ·⟩) (.inr ⟨hsame.symm, ·⟩)
    refine (hordered.and hdistinct).imp ?_
    rintro a b ⟨hab, hne⟩
    simp only [Bool.or_eq_true, Bool.and_eq_true, decide_eq_true_eq] at hab
    exact hab.imp_right fun h => ⟨h.1, Nat.lt_of_le_of_ne h.2 hne.symm⟩

/-- What comes before all other rows is listed first. -/
theorem Table.NewestFirst.head?_eq {createdAt : ρ → String} {id : ρ → Nat} {rows listed : List ρ}
    {r : ρ} (h : NewestFirst createdAt id rows listed) (hr : r ∈ rows)
    (hnewest : ∀ r' ∈ rows, r' = r ∨ createdAt r' ≤ createdAt r ∧ id r' < id r) :
    listed.head? = some r := by
  have hmem := h.perm.mem_iff.mpr hr
  cases listed with
  | nil => cases hmem
  | cons first rest =>
    rcases hnewest first (h.perm.mem_iff.mp List.mem_cons_self) with heq | ⟨hstamp, hid⟩
    · exact congrArg some heq
    rcases List.mem_cons.mp hmem with heq | hrest
    · exact congrArg some heq.symm
    · rcases List.rel_of_pairwise_cons h.ordered hrest with hlt | ⟨-, hlt⟩
      · exact absurd hlt (String.not_lt.mpr hstamp)
      · exact absurd hlt (Nat.lt_asymm hid)

/-! ## Counts -/

/-- A text among others that comes before all of them; null if there is none. -/
def Json.IsFirst (le : String → String → Prop) (texts : List String) (j : Json) : Prop :=
  (texts = [] ∧ j = .null) ∨ ∃ first ∈ texts, j = .string first ∧ ∀ text ∈ texts, le first text

section Fold

variable {le : String → String → Prop} [DecidableRel le]

/-- Of a text and those after it, a fold that keeps what comes first keeps what comes first. -/
theorem exists_first_of_foldl (htrans : ∀ {a b c}, le a b → le b c → le a c)
    (htotal : ∀ a b, le a b ∨ le b a) (texts : List String) (start : String) :
    ∃ first ∈ start :: texts,
      texts.foldl (fun m s => if m.any fun first => le first s then m else some s) (some start) =
        some first ∧ ∀ text ∈ start :: texts, le first text := by
  have hrefl : ∀ a, le a a := fun a => (htotal a a).elim id id
  induction texts generalizing start with
  | nil => exact ⟨start, List.mem_cons_self, rfl, by simpa using hrefl start⟩
  | cons text texts ih =>
    obtain ⟨next, hnext, hnextMem, hstart, htext⟩ : ∃ next,
        (if (some start).any fun first => le first text then some start else some text) =
            some next ∧
          next ∈ [start, text] ∧ le next start ∧ le next text := by
      by_cases hle : le start text
      · exact ⟨start, by simp [hle], by simp, hrefl start, hle⟩
      · exact ⟨text, by simp [hle], by simp, (htotal start text).resolve_left hle, hrefl text⟩
    obtain ⟨first, hmem, hfold, hfirst⟩ := ih next
    refine ⟨first, ?_, by rw [List.foldl_cons, hnext, hfold], ?_⟩
    · rcases List.mem_cons.mp hmem with rfl | hmem
      · exact List.mem_append_left texts hnextMem
      · exact List.mem_append_right [start, text] hmem
    · have hle := hfirst next List.mem_cons_self
      intro other hother
      rcases List.mem_cons.mp hother with rfl | hother
      · exact htrans hle hstart
      rcases List.mem_cons.mp hother with rfl | hother
      · exact htrans hle htext
      · exact hfirst other (List.mem_cons_of_mem _ hother)

/-- A fold that keeps what comes first gives what comes first. -/
theorem isFirst_foldl (htrans : ∀ {a b c}, le a b → le b c → le a c)
    (htotal : ∀ a b, le a b ∨ le b a) (texts : List String) :
    Json.IsFirst le texts ((Option.map Json.string (texts.foldl
      (fun m s => if m.any fun first => le first s then m else some s) none)).getD .null) := by
  cases texts with
  | nil => exact .inl ⟨rfl, rfl⟩
  | cons text texts =>
    have hrun := @exists_first_of_foldl le _ htrans htotal texts text
    obtain ⟨first, hfirst, hfold, hle⟩ := hrun
    have hstart : (if (none : Option String).any (fun first => le first text) then none
        else some text) = some text := rfl
    rw [List.foldl_cons, hstart, hfold]
    exact .inr ⟨first, hfirst, rfl, hle⟩

end Fold

/-- The number of rows, and their least and greatest timestamp. -/
def Table.Counted (createdAt : ρ → String) (rows : List ρ) (counts : Json) : Prop :=
  ∃ oldest newest,
    counts = .object [("total", .int rows.length), ("oldest", oldest), ("newest", newest)] ∧
    oldest.IsFirst (· ≤ ·) (rows.map createdAt) ∧ newest.IsFirst (· ≥ ·) (rows.map createdAt)

theorem Table.counted_stats (createdAt : ρ → String) (t : Table ρ) :
    Counted createdAt t.rows (t.stats createdAt) := by
  have holdest := @isFirst_foldl (fun a b => a ≤ b) _ String.le_trans String.le_total
    (t.rows.map createdAt)
  have hnewest := @isFirst_foldl (fun a b => b ≤ a) _ (fun hab hbc => String.le_trans hbc hab)
    (fun a b => String.le_total b a) (t.rows.map createdAt)
  refine ⟨_, _, rfl, ?_, ?_⟩
  · exact holdest
  · exact hnewest

namespace Store

/-! ## Reads -/

/-- As many of the listed rows as a limit allows; it must fit into 64 bits. -/
def upTo (limit : Nat) (listed : List ρ) : Except StoreError (List ρ) :=
  if limit < wordBound then .ok (listed.take limit) else .error (.value .unbounded)

theorem limited_eq_upTo (position limit : Nat) (listed : List ρ) :
    (do return limited (← limitOf (← Cell.ofJson position (.int limit))) listed) =
      upTo limit listed := by
  have hlow : -wordBound ≤ limit := by
    have hbound : 0 < wordBound := Int.pow_pos (by decide)
    omega
  by_cases hlimit : limit < wordBound
  · have hfits : Cell.fits limit = true := by simp [Cell.fits, hlow, hlimit]
    have hlimitOf : limitOf (some (.int limit)) = .ok (some limit) := by
      have hnonneg : ¬(limit : Int) < 0 := by omega
      change Except.ok (if (limit : Int) < 0 then none else some (limit : Int).toNat) = _
      rw [if_neg hnonneg, Int.toNat_natCast]
    rw [Cell.ofJson, if_pos hfits, upTo, if_pos hlimit]
    change (do return limited (← limitOf (some (.int limit))) listed) = _
    rw [hlimitOf]
    rfl
  · have hfits : ¬Cell.fits limit = true := by simp [Cell.fits, hlimit]
    rw [Cell.ofJson, if_neg hfits, upTo, if_neg hlimit]
    rfl

/-- What is read from a store, in terms of its rows. -/
structure Readable (s : Store) : Prop where
  /-- The history of a group, newest first, and the record of its first row. -/
  groups : ∀ g : String, ∃ listed,
    Table.NewestFirst GroupRow.createdAt GroupRow.id
        (s.groups.rows.filter fun r => r.groupId = .text g) listed ∧
      (∀ limit : Nat, s.groupHistory (.string g) (.int limit) = upTo limit listed) ∧
      s.latestGroup (.string g) = listed.head?.mapM fun r => r.toRecord.mapError .value
  units : ∀ g u : String, ∃ listed,
    Table.NewestFirst UnitRow.createdAt UnitRow.id
        (s.units.rows.filter fun r => r.groupId = .text g && r.unitId = .text u) listed ∧
      ∀ limit : Nat, s.unitHistory (.string g) (.string u) (.int limit) = upTo limit listed
  systems : ∃ listed, Table.NewestFirst SystemRow.createdAt SystemRow.id s.systems.rows listed ∧
    ∀ limit : Nat, s.systemHistory (.int limit) = upTo limit listed
  stats : ∃ units groups systems,
    s.stats = .ok (.object [("unit_quality", units), ("group_quality", groups),
        ("system_quality", systems)]) ∧
      Table.Counted UnitRow.createdAt s.units.rows units ∧
      Table.Counted GroupRow.createdAt s.groups.rows groups ∧
      Table.Counted SystemRow.createdAt s.systems.rows systems

variable {s : Store}

section Open

variable (hopen : s.opened = .ok ()) (g u : String) (limit : Json)
include hopen

theorem groupHistory_of_open : s.groupHistory (.string g) limit =
    (do return limited (← limitOf (← Cell.ofJson 2 limit)) (s.groupRows (some (.text g)))) := by
  rw [groupHistory, hopen]
  rfl

theorem latestGroup_of_open : s.latestGroup (.string g) =
    (s.groupRows (some (.text g))).head?.mapM fun r => r.toRecord.mapError .value := by
  have hsought : sought 1 (.string g) = .ok (some (.text g)) := rfl
  rw [latestGroup, hopen, hsought]
  dsimp only [bind, Except.bind]
  cases s.groupRows (some (.text g)) with
  | nil => rfl
  | cons row rows => rfl

theorem unitHistory_of_open : s.unitHistory (.string g) (.string u) limit =
    (do
      return limited (← limitOf (← Cell.ofJson 3 limit))
        (Table.newestFirst UnitRow.createdAt UnitRow.id (s.units.rows.filter fun r =>
          some (.text g) = some r.groupId && some (.text u) = some r.unitId))) := by
  rw [unitHistory, hopen]
  rfl

theorem systemHistory_of_open : s.systemHistory limit =
    (do
      return limited (← limitOf (← Cell.ofJson 1 limit))
        (Table.newestFirst SystemRow.createdAt SystemRow.id s.systems.rows)) := by
  rw [systemHistory, hopen]
  rfl

end Open

/-- An open store can be read, if its rows were written with increasing identifiers. -/
theorem readable (hopen : s.isOpen = true)
    (hunits : s.units.rows.Pairwise fun r r' => r.id < r'.id)
    (hgroups : s.groups.rows.Pairwise fun r r' => r.id < r'.id)
    (hsystems : s.systems.rows.Pairwise fun r r' => r.id < r'.id) : Readable s := by
  have hopened : s.opened = .ok () := by
    rw [opened, if_pos hopen]
  constructor
  case groups =>
    intro g
    refine ⟨s.groupRows (some (.text g)), ?_, ?_, latestGroup_of_open hopened g⟩
    · have hfilter : (s.groups.rows.filter fun r => some (.text g) = some r.groupId) =
          s.groups.rows.filter fun r => r.groupId = .text g := by
        simp [eq_comm]
      rw [groupRows, hfilter]
      exact Table.newestFirst_newestFirst (hgroups.sublist List.filter_sublist)
    · intro limit
      rw [groupHistory_of_open hopened, limited_eq_upTo]
  case units =>
    intro g u
    have hfilter : (s.units.rows.filter fun r =>
          some (.text g) = some r.groupId && some (.text u) = some r.unitId) =
        s.units.rows.filter fun r => r.groupId = .text g && r.unitId = .text u := by
      simp [eq_comm]
    refine ⟨_, Table.newestFirst_newestFirst (hunits.sublist List.filter_sublist), ?_⟩
    intro limit
    rw [unitHistory_of_open hopened, limited_eq_upTo, hfilter]
  case systems =>
    refine ⟨_, Table.newestFirst_newestFirst hsystems, ?_⟩
    intro limit
    rw [systemHistory_of_open hopened, limited_eq_upTo]
  case stats =>
    refine ⟨_, _, _, ?_, Table.counted_stats _ _, Table.counted_stats _ _, Table.counted_stats _ _⟩
    rw [stats, hopened]
    rfl

/-! ## What determines the reads -/

/-- A record that was written and not removed since is in its table, with the values that it was
written with, if these are of the kinds that its columns have. -/
structure KeepsValues (past : Happens) (s : Store) : Prop where
  units : ∀ before g (record : UnitRecord Number) stamp after, record.Typed →
    past.units = before ++ .insert (.string g, record.toEntry) stamp :: after →
    (∀ event ∈ after, event.Spares stamp) →
    record.row (insertions before + 1) g stamp ∈ s.units.rows
  /-- The record of a group can also be read back. -/
  groups : ∀ before (record : GroupRecord Number) stamp after, record.Typed →
    past.groups = before ++ .insert record.toEntry stamp :: after →
    (∀ event ∈ after, event.Spares stamp) →
    record.row (insertions before + 1) stamp ∈ s.groups.rows ∧
      (record.row (insertions before + 1) stamp).toRecord = .ok record.readBack
  systems : ∀ before (record : SystemRecord Number) stamp after, record.Typed →
    past.systems = before ++ .insert record.toEntry stamp :: after →
    (∀ event ∈ after, event.Spares stamp) →
    record.row (insertions before + 1) stamp ∈ s.systems.rows

theorem Recorded.keepsValues {past : Happens} (h : Recorded past s) : KeepsValues past s where
  units _ _ _ _ _ htyped hpast hspared :=
    h.units.row_mem hpast hspared fun _ _ => UnitRecord.toRow_toEntry htyped
  groups _ _ _ _ htyped hpast hspared :=
    ⟨h.groups.row_mem hpast hspared fun _ _ => GroupRecord.toRow_toEntry htyped,
      GroupRecord.toRecord_row htyped⟩
  systems _ _ _ _ htyped hpast hspared :=
    h.systems.row_mem hpast hspared fun _ _ => SystemRecord.toRow_toEntry htyped

namespace Operation

/-- **History.** After any operations on a fresh store, failed ones among them, the rows of each
table are those that the operations that succeeded have inserted and not removed since. They have
the values that were inserted, and the number of their insertion as identifier. What is read from
the store is determined by these rows. -/
theorem run_determines_reads (retention : Int) (ops : List Operation)
    (hops : ∀ op ∈ ops, op ≠ .close) :
    let s := (run ops { retentionDays := retention }).2
    Recorded (past retention ops) s ∧ KeepsValues (past retention ops) s ∧ Readable s := by
  intro s
  have hrecorded : Recorded (past retention ops) s := recorded_run retention ops
  have hopen : s.isOpen = true := by
    refine isOpen_stepAll ?_ (stepAll_succeeded ops { retentionDays := retention }) rfl
    exact fun op hop => hops op ((succeeded_sublist ops _).subset hop)
  exact ⟨hrecorded, hrecorded.keepsValues,
    readable hopen hrecorded.units.increasing hrecorded.groups.increasing
      hrecorded.systems.increasing⟩

/-- Groups that are written in another order than that of their timestamps, one of them without a
name, and a pruning. -/
def outOfOrder : List Operation :=
  [.group { groupId := .string "g" } "2024-05-09T10:00:00",
    .group { groupId := .string "g", groupName := .null } "2024-05-09T11:00:00",
    .group { groupId := .string "g", groupName := .string "late" } "2024-05-08T10:00:00",
    .group { groupId := .string "g" } "2024-04-01T10:00:00",
    .prune none "2024-05-10T00:00:00",
    .group { groupId := .string "g", groupName := .string "last" } "2024-05-09T10:00:00"]

theorem run_determines_reads_outOfOrder :
    (∀ op ∈ outOfOrder, op ≠ .close) ∧
      (let s := (run outOfOrder { retentionDays := 7 }).2
      s.groups.rows.map (fun r => (r.id, r.createdAt)) =
          [(1, "2024-05-09T10:00:00"), (2, "2024-05-08T10:00:00"), (4, "2024-05-09T10:00:00")] ∧
        Recorded (past 7 outOfOrder) s ∧ KeepsValues (past 7 outOfOrder) s ∧ Readable s) := by
  have hops : ∀ op ∈ outOfOrder, op ≠ .close := by
    simp [outOfOrder]
  exact ⟨hops, by decide, run_determines_reads 7 outOfOrder hops⟩

end Operation

/-- A limit must fit into 64 bits: a greater one is refused, also where there is nothing to list. -/
theorem systemHistory_refuses_large_limit :
    ({} : Store).systemHistory (.int 9223372036854775808) = .error (.value .unbounded) ∧
      ({} : Store).systemHistory (.int 9223372036854775808) ≠
        .ok (List.take 9223372036854775808 ({} : Store).systems.rows) := by
  have hrefused : ({} : Store).systemHistory (.int 9223372036854775808) =
      .error (.value .unbounded) :=
    rfl
  rw [hrefused]
  exact ⟨rfl, nofun⟩

end Store

end FlowLint
