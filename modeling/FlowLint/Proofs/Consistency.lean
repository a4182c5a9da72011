import FlowLint.Proofs.Effects
import FlowLint.Proofs.FirstSeen
import FlowLint.Proofs.History
import FlowLint.Proofs.Units

/-!
# A scan and what is read of it

A scan that was stored in a store is read from it again as it was. The scores of groups and
systems are rounded to hundredths, so that they are doubles that a store keeps as they are; the
rows of the scan are newer than all others, if only by their identifiers.

* `Number.isPlain_roundHalfUp`: what is rounded to hundredths is a finite double, and no zero with
  a sign.
* `GroupRecord.MadeOf`: what the record of a group says of the records of its units.
* `Store.latestGroup_of_storeScan`, `Store.systemHistory_of_storeScan`: what is read after a scan
  was stored.
* `ScanResult.ReadFrom`: a store says the same as the result of a scan. `scan_is_consistent`: it
  does after the scan was stored, whatever happened to the store before.
-/

namespace FlowLint

open Script (bind_eq_ok mapError_eq_ok mapM_eq_ok_iff exists_mem_of_forall₂)

/-! ## Rounded scores -/

namespace Number

/-- The number is a finite double, and no zero with a sign. -/
def IsPlain (x : Number) : Prop :=
  ∃ v, x = float (.finite v) ∧ (Binary64.finite v).Representable

variable {x : Number}

theorem IsPlain.isFloat (h : x.IsPlain) : x.IsFloat := by
  obtain ⟨v, rfl, hv⟩ := h
  exact ⟨_, rfl, hv⟩

theorem IsPlain.unsigned_eq (h : x.IsPlain) : x.unsigned = x := by
  obtain ⟨v, rfl, -⟩ := h
  rfl

theorem IsPlain.cell_toJson (h : x.IsPlain) : x.cell.toJson = x.toJson := by
  obtain ⟨v, rfl, -⟩ := h
  rfl

/-- A number of hundredths is never so small that its sign is all that is left of it. -/
theorem isPlain_quotient {n : Int} {y : Binary64} (h : quotient n 100 = .ok y) :
    (float y).IsPlain := by
  have hhundred : ¬(100 : Int) = 0 := by decide
  rw [quotient, if_neg hhundred] at h
  by_cases hn : n = 0
  · rw [if_pos hn] at h
    cases h
    exact ⟨0, rfl, Binary64.ofRat_zero⟩
  · rw [if_neg hn] at h
    have hsize : twoPow (-1074) ≤ |(n : Rat) / ((100 : Int) : Rat)| := by
      have hone : (1 : Rat) ≤ |(n : Rat)| := by exact_mod_cast Int.one_le_abs hn
      calc twoPow (-1074) ≤ twoPow (-7) := twoPow_le_twoPow (by decide)
        _ ≤ 1 / 100 := by rw [twoPow_eq]; norm_num
        _ ≤ |(n : Rat)| / 100 := by gcongr
        _ = |(n : Rat) / ((100 : Int) : Rat)| := by rw [abs_div]; norm_num
    have hsign := (Binary64.ofRat_ne_zero hsize).1
    have hnumber := Binary64.ofRat_ne_nan ((n : Rat) / ((100 : Int) : Rat))
    have hrep := Binary64.representable_ofRat ((n : Rat) / ((100 : Int) : Rat))
    generalize Binary64.ofRat ((n : Rat) / ((100 : Int) : Rat)) = z at h hsign hnumber hrep
    cases z with
    | finite v =>
      cases h
      exact ⟨v, rfl, hrep⟩
    | negativeZero => exact absurd rfl hsign
    | infinite s => cases h
    | nan => exact absurd rfl hnumber

theorem isPlain_roundHalfUp {y : Number} (h : roundHalfUp 2 x = Except.ok (ε := Fault) y) :
    y.IsPlain := by
  obtain ⟨scaled, -, h⟩ := bind_eq_ok.mp h
  obtain ⟨shifted, -, h⟩ := bind_eq_ok.mp h
  obtain ⟨n, -, h⟩ := bind_eq_ok.mp h
  have hquotient : (float <$> quotient n 100 : Except Fault Number) = .ok y := h
  cases hq : quotient n 100 with
  | error fault =>
    rw [hq] at hquotient
    cases hquotient
  | ok z =>
    rw [hq] at hquotient
    cases hquotient
    exact isPlain_quotient hq

theorem IsPlain.larger_zero (h : x.IsPlain) : (larger (decimal 0) x).IsPlain := by
  unfold larger
  split
  · exact h
  · exact ⟨0, congrArg float Binary64.ofRat_zero, Binary64.ofRat_zero⟩

end Number

/-! ## Records of a scan -/

namespace GroupRecord

/-- The record without the records of its units. -/
def withoutUnits (r : GroupRecord Number) : GroupRecord Number :=
  { r with units := [] }

/-- The scores of a record are kept by a store as they are. -/
structure Plain (r : GroupRecord Number) : Prop where
  qualityScore : r.qualityScore.IsPlain
  complexityScore : r.complexityScore.IsPlain

variable {r : GroupRecord Number}

theorem Plain.typed (h : r.Plain) : r.Typed :=
  ⟨h.qualityScore.isFloat, h.complexityScore.isFloat⟩

theorem Plain.readBack_eq (h : r.Plain) : r.readBack = r.withoutUnits := by
  rw [readBack, withoutUnits, h.qualityScore.unsigned_eq, h.complexityScore.unsigned_eq]

end GroupRecord

namespace SystemRecord

/-- The scores of a record are kept by a store as they are. -/
structure Plain (r : SystemRecord Number) : Prop where
  overallQuality : r.overallQuality.IsPlain
  technicalDebt : r.technicalDebt.IsPlain
  complexity : r.complexity.IsPlain

variable {r : SystemRecord Number}

theorem Plain.typed (h : r.Plain) : r.Typed :=
  ⟨h.overallQuality.isFloat, h.technicalDebt.isFloat, h.complexity.isFloat⟩

end SystemRecord

section

variable {weights : Weights Number} {g name : String} {records : List (UnitRecord Number)}
  {samples : List (UnitSample Number)} {groups : List (GroupRecord Number)}

/-- What the record of a group says of the records of its units. -/
structure GroupRecord.MadeOf (g name : String) (records : List (UnitRecord Number))
    (r : GroupRecord Number) : Prop where
  groupId : r.groupId = g
  groupName : r.groupName = name
  units : r.units = records
  totalUnits : r.totalUnits = records.length
  totalIssues : r.totalIssues = (records.map fun u => (u.issueCount : Int)).sum
  unitsWithIssues : r.unitsWithIssues = (records.filter fun u => !u.issues.isEmpty).length
  unitsWithCriticalIssues : r.unitsWithCriticalIssues =
    ((records.filter fun u => !u.issues.isEmpty).filter (·.hasCriticalIssue)).length
  distinctKinds : r.distinctKinds =
    (firstSeen ((records.filter fun u => !u.issues.isEmpty).flatMap fun u =>
      u.issues.map Issue.kind)).map fun k => .string k.name
  qualityScore : ∃ final quality : Number, roundHalfUp 2 final = Except.ok (ε := Fault) quality ∧
    r.qualityScore = larger (decimal 0) quality
  complexityScore : ∃ score complexity : Number,
    groupMeans records (records.filter fun u => !u.issues.isEmpty).length
      ((records.filter fun u => !u.issues.isEmpty).filter (·.hasCriticalIssue)).length =
        Except.ok (ε := Fault) (score, complexity) ∧
    roundHalfUp 2 complexity = Except.ok (ε := Fault) r.complexityScore

theorem madeOf_of_groupRecordOf {r : GroupRecord Number}
    (h : groupRecordOf g name records = Except.ok (ε := Fault) r) : r.MadeOf g name records := by
  obtain ⟨⟨score, complexity⟩, hmeans, h⟩ := bind_eq_ok.mp h
  obtain ⟨mostly, -, h⟩ := bind_eq_ok.mp h
  obtain ⟨quality, hquality, h⟩ := bind_eq_ok.mp h
  obtain ⟨rounded, hrounded, h⟩ := bind_eq_ok.mp h
  cases h
  exact ⟨rfl, rfl, rfl, rfl, rfl, rfl, rfl, rfl, ⟨_, quality, hquality, rfl⟩,
    ⟨score, complexity, hmeans, hrounded⟩⟩

theorem plain_of_groupRecordOf {r : GroupRecord Number}
    (h : groupRecordOf g name records = Except.ok (ε := Fault) r) : r.groupId = g ∧ r.Plain := by
  have hmade := madeOf_of_groupRecordOf h
  obtain ⟨final, quality, hquality, hscore⟩ := hmade.qualityScore
  obtain ⟨score, complexity, -, hcomplexity⟩ := hmade.complexityScore
  refine ⟨hmade.groupId, ?_, Number.isPlain_roundHalfUp hcomplexity⟩
  rw [hscore]
  exact (Number.isPlain_roundHalfUp hquality).larger_zero

/-- The three scores of a system are rounded at the end, however they came about. -/
theorem plain_of_rounded {overall debt complexity : Number} {groupCount affected critical : Int}
    {r : SystemRecord Number}
    (h : (do
      return { overallQuality := larger (decimal 0) (← roundHalfUp 2 overall)
               technicalDebt := ← roundHalfUp 2 debt
               complexity := ← roundHalfUp 2 complexity
               groupCount, affectedUnits := affected, criticalUnits := critical }) =
        Except.ok (ε := Fault) r) : r.Plain := by
  obtain ⟨overall', hoverall, h⟩ := bind_eq_ok.mp h
  obtain ⟨debt', hdebt, h⟩ := bind_eq_ok.mp h
  obtain ⟨complexity', hcomplexity, h⟩ := bind_eq_ok.mp h
  cases h
  exact ⟨(Number.isPlain_roundHalfUp hoverall).larger_zero, Number.isPlain_roundHalfUp hdebt,
    Number.isPlain_roundHalfUp hcomplexity⟩

theorem plain_of_systemRecord {r : SystemRecord Number}
    (h : systemRecord groups = Except.ok (ε := Fault) r) : r.Plain := by
  dsimp only [systemRecord] at h
  split at h
  · exact plain_of_rounded h
  · obtain ⟨overall, -, h⟩ := bind_eq_ok.mp h
    obtain ⟨debt, -, h⟩ := bind_eq_ok.mp h
    obtain ⟨complexity, -, h⟩ := bind_eq_ok.mp h
    exact plain_of_rounded h

/-- The record of a system does not depend on the records of units. -/
theorem systemRecord_withoutUnits :
    (systemRecord (groups.map GroupRecord.withoutUnits) : Except Fault (SystemRecord Number)) =
      systemRecord groups := by
  simp only [systemRecord, overallQuality, meanByUnits, List.map_map, List.mapM_map,
    List.length_map, Function.comp_def]
  rfl

theorem record_of_groupReport {r : GroupRecord Number} {report : GroupReport Number}
    (h : groupReport r = .ok report) : report.record = r := by
  obtain ⟨health, -, h⟩ := bind_eq_ok.mp h
  split at h
  · cases h
  · obtain ⟨advice, -, h⟩ := bind_eq_ok.mp h
    cases h
    rfl

theorem plain_of_scanReport {scanner : Scanner} {level : Json} {p : UnitProvider}
    {report : GroupReport Number} (h : scanner.scanReport level p g = .ok report) :
    report.record.groupId = g ∧ report.record.Plain := by
  obtain ⟨r, hr, h⟩ := bind_eq_ok.mp h
  obtain ⟨samples, -, hr⟩ := bind_eq_ok.mp hr
  obtain ⟨records, -, hrecord⟩ := bind_eq_ok.mp (mapError_eq_ok.mp hr)
  obtain rfl := record_of_groupReport (mapError_eq_ok.mp h)
  exact plain_of_groupRecordOf hrecord

end

/-! ## What a stored scan leaves -/

namespace Store

/-- The timestamps of all rows. -/
def stamps (s : Store) : List String :=
  s.units.rows.map UnitRow.createdAt ++ s.groups.rows.map GroupRow.createdAt ++
    s.systems.rows.map SystemRow.createdAt

section

variable {s t : Store} {past : Happens} {groups : List (GroupRecord Number)}
  {system : SystemRecord Number} {time : String}

theorem readable_of_storeScan (hs : Recorded past s)
    (h : s.storeScan (groups.map GroupRecord.toEntry) system.toEntry time = .ok t) :
    Readable t := by
  have hgrows := Grows.storeScan h
  refine readable ?_ (hs.units.replay hgrows.units).increasing
    (hs.groups.replay hgrows.groups).increasing (hs.systems.replay hgrows.systems).increasing
  obtain ⟨_, hopen, -⟩ := bind_eq_ok.mp h
  rw [(rollback_eq_iff.mp (storeScan_rollback h)).2]
  by_contra hclosed
  unfold opened at hopen
  rw [if_neg hclosed] at hopen
  cases hopen

/-- The rows that a scan adds for its groups. -/
theorem exists_groupRows_of_storeScan (hplain : ∀ g ∈ groups, g.Plain)
    (h : s.storeScan (groups.map GroupRecord.toEntry) system.toEntry time = .ok t) :
    ∃ rows, t.groups.rows = s.groups.rows ++ rows ∧
      List.Forall₂ (fun g r => ∃ id, s.groups.lastId < id ∧ r = g.row id time) groups rows := by
  obtain ⟨rows, hrows, hwritten⟩ := Schema.exists_rows_of_inserts (Grows.storeScan h).groups
  refine ⟨rows, hrows, ?_⟩
  have hboth := (List.forall₂_and_left groups rows).mpr
    ⟨hplain, List.forall₂_map_left_iff.mp hwritten⟩
  refine hboth.imp ?_
  rintro g r ⟨hg, id, hid, hr⟩
  exact ⟨id, hid, GroupRecord.toRow_toEntry hg.typed hr⟩

/-- A group that was just stored is the latest of its name, if no row is of a later time. -/
theorem latestGroup_of_storeScan (hs : Recorded past s) (hstamps : ∀ stamp ∈ s.stamps, stamp ≤ time)
    (hplain : ∀ g ∈ groups, g.Plain) (hdistinct : (groups.map GroupRecord.groupId).Nodup)
    (h : s.storeScan (groups.map GroupRecord.toEntry) system.toEntry time = .ok t) :
    ∀ g ∈ groups, t.latestGroup (.string g.groupId) = .ok (some g.withoutUnits) := by
  obtain ⟨rows, hrows, hwritten⟩ := exists_groupRows_of_storeScan hplain h
  have hids : rows.map GroupRow.groupId = (groups.map GroupRecord.groupId).map Cell.text := by
    rw [List.map_map]
    refine (List.forall₂_eq_eq_eq ▸ List.forall₂_map_left_iff.mpr (List.forall₂_map_right_iff.mpr
      (hwritten.imp ?_))).symm
    rintro g r ⟨id, -, rfl⟩
    rfl
  have hnodup : (rows.map GroupRow.groupId).Nodup :=
    hids ▸ hdistinct.map fun _ _ => Cell.text.inj
  intro g hg
  obtain ⟨r, hr, id, hid, rfl⟩ := exists_mem_of_forall₂ hwritten g hg
  obtain ⟨listed, hlisted, -, hlatest⟩ := (readable_of_storeScan hs h).groups g.groupId
  have hmem : g.row id time ∈ t.groups.rows.filter fun r => r.groupId = .text g.groupId := by
    rw [hrows]
    exact List.mem_filter.mpr ⟨List.mem_append_right _ hr, decide_eq_true rfl⟩
  have hhead : listed.head? = some (g.row id time) := by
    refine hlisted.head?_eq hmem fun r' hr' => ?_
    -- A row that was there has a smaller identifier, and no other new row is of this group.
    rw [hrows, List.mem_filter, List.mem_append, decide_eq_true_eq] at hr'
    obtain ⟨hold | hnew, hname⟩ := hr'
    · refine .inr ⟨hstamps _ ?_, (hs.groups.id_le hold).trans_lt hid⟩
      simp only [stamps, List.mem_append, List.mem_map]
      exact .inl (.inr ⟨r', hold, rfl⟩)
    · exact .inl (List.inj_on_of_nodup_map hnodup hnew hr hname)
  rw [hlatest, hhead, ← (hplain g hg).readBack_eq, Option.mapM_some,
    GroupRecord.toRecord_row (hplain g hg).typed]
  rfl

/-- The system that was just stored is the latest one, if no row is of a later time. -/
theorem systemHistory_of_storeScan (hs : Recorded past s)
    (hstamps : ∀ stamp ∈ s.stamps, stamp ≤ time) (hplain : system.Plain)
    (h : s.storeScan (groups.map GroupRecord.toEntry) system.toEntry time = .ok t) :
    ∃ id, ∀ limit : Nat, 0 < limit → limit < wordBound →
      ∃ rest, t.systemHistory (.int limit) = .ok (system.row id time :: rest) := by
  have hinserts : systemSchema.replay ([system.toEntry].map fun e => .insert e time) s.systems =
      .ok t.systems := (Grows.storeScan h).systems
  obtain ⟨rows, hrows, hwritten⟩ := Schema.exists_rows_of_inserts hinserts
  obtain ⟨r, _, ⟨id, hid, hr⟩, hnone, rfl⟩ := List.forall₂_cons_left_iff.mp hwritten
  cases hnone
  cases SystemRecord.toRow_toEntry hplain.typed hr
  obtain ⟨listed, hlisted, hhistory⟩ := (readable_of_storeScan hs h).systems
  have hmem : system.row id time ∈ t.systems.rows := by simp [hrows]
  have hhead : listed.head? = some (system.row id time) := by
    refine hlisted.head?_eq hmem fun r' hr' => ?_
    rw [hrows, List.mem_append, List.mem_singleton] at hr'
    refine hr'.symm.imp_right fun hold => ⟨hstamps _ ?_, (hs.systems.id_le hold).trans_lt hid⟩
    simp only [stamps, List.mem_append, List.mem_map]
    exact .inr ⟨r', hold, rfl⟩
  obtain ⟨rest, rfl⟩ := List.head?_eq_some_iff.mp hhead
  refine ⟨id, fun limit hpos hlimit => ⟨rest.take (limit - 1), ?_⟩⟩
  rw [hhistory, upTo, if_pos hlimit, List.take_cons hpos]

end

end Store

/-! ## Scans -/

/-- An export lists each of its groups once. -/
theorem FlowExport.nodup_groupIds (e : FlowExport) : e.groupIds.Nodup :=
  (firstSeen_foldl _).nodup

section

variable {scanner : Scanner} {level : Json} {p : UnitProvider} {s : Store}
  {groups : List (GroupRecord Number)} {system : SystemRecord Number} {t : ScanTrace}

/-- A store takes a scan at once. -/
theorem outcome_take_store (time : String) :
    Scanning.outcome (Sink.take groups system time (.store s)) t =
      match s.storeScan (groups.map GroupRecord.toEntry) system.toEntry time with
      | .ok after => (.ok (), { t with store := some after })
      | .error e => (.error e.message, { t with store := some s }) := by
  unfold Sink.take
  dsimp only
  rw [Store.Session.storeScan_eq, Store.Session.outcome_change]
  cases s.storeScan (groups.map GroupRecord.toEntry) system.toEntry time <;> rfl

/-- Records that were stored are in the store that is left. -/
theorem exists_stored_of_persisted {setup : ScanSetup} (hsink : setup.sink = some (.store s))
    (h : (persistRecords setup groups system t).1 = true) :
    ∃ after, (persistRecords setup groups system t).2.store = some after ∧
      s.storeScan (groups.map GroupRecord.toEntry) system.toEntry setup.time = .ok after := by
  cases hpersist : setup.persist with
  | false =>
    rw [persistRecords_off (.inl hpersist)] at h
    cases h
  | true =>
    rw [persistRecords_on hpersist hsink, storeRecords_eq, outcome_take_store] at h ⊢
    cases hstored : s.storeScan (groups.map GroupRecord.toEntry) system.toEntry setup.time with
    | error e =>
      rw [hstored] at h
      cases h
    | ok after => exact ⟨after, rfl, rfl⟩

/-- What is known of the scores of a scan. -/
theorem records_of_evaluate {reports : List (GroupReport Number)}
    (h : scanner.evaluate level p = .ok (reports, system)) :
    reports.map (·.record.groupId) = p.groupIds ∧ (∀ g ∈ reports.map (·.record), g.Plain) ∧
      systemRecord (reports.map (·.record)) = Except.ok (ε := Fault) system := by
  obtain ⟨n, -, h⟩ := bind_eq_ok.mp h
  obtain ⟨reports', hreports, h⟩ := bind_eq_ok.mp h
  obtain ⟨system', hsystem, h⟩ := bind_eq_ok.mp h
  cases h
  have hplain := (mapM_eq_ok_iff.mp hreports).imp fun _ _ => plain_of_scanReport
  refine ⟨?_, ?_, mapError_eq_ok.mp hsystem⟩
  · have hids := List.forall₂_map_right_iff.mpr (hplain.imp fun _ _ h => h.1.symm)
    exact (List.forall₂_eq_eq_eq ▸ hids).symm
  · intro g hg
    obtain ⟨report, hreport, rfl⟩ := List.mem_map.mp hg
    exact forall_mem_of_forall₂_right hplain (fun _ _ h => h.2) report hreport

/-- The members of the record of a system are also those of its row. -/
theorem SystemRecord.Plain.toJson_row {r : SystemRecord Number} (h : r.Plain) (id : Nat)
    (stamp : String) : ∃ fields, r.toJson = .object fields ∧
      (r.row id stamp).toJson =
        .object (("id", .int id) :: fields ++ [("created_at", .string stamp)]) := by
  refine ⟨_, rfl, ?_⟩
  simp only [row, SystemRow.toJson, h.overallQuality.cell_toJson, h.technicalDebt.cell_toJson,
    h.complexity.cell_toJson]
  rfl

/-- The record of the system that the latest records of groups make. -/
def Store.recomputed (s : Store) (groupIds : List String) :
    Except StoreError (SystemRecord Number) := do
  let latest ← groupIds.mapM fun g => s.latestGroup (.string g)
  Except.mapError .value (systemRecord (latest.filterMap id))

/-- What is read from a store is what a scan at a certain time has found. -/
structure ScanResult.ReadFrom (result : ScanResult) (groupIds : List String) (time : String)
    (s : Store) : Prop where
  names : result.reports.map (·.record.groupId) = groupIds
  /-- The latest record of each group is the one of the scan, without the records of units. -/
  groups : groupIds.mapM (fun g => s.latestGroup (.string g)) =
    .ok (result.reports.map fun report => some report.record.withoutUnits)
  system : s.recomputed groupIds = .ok result.system
  /-- The first row of the history of the system has the members of the record of the system. -/
  history : ∃ id fields, result.system.toJson = .object fields ∧
    ∀ limit : Nat, 0 < limit → limit < wordBound →
      ∃ row rest, s.systemHistory (.int limit) = .ok (row :: rest) ∧
        row.toJson = .object (("id", .int id) :: fields ++ [("created_at", .string time)])

/-- A scan of groups with names of their own that was stored. -/
theorem readFrom_of_persisted {past : Store.Happens} {result : ScanResult}
    (hdistinct : p.groupIds.Nodup) (hs : Store.Recorded past s)
    (hsink : scanner.sink = some (.store s)) (htime : ∀ stamp ∈ s.stamps, stamp ≤ scanner.time)
    (hscan : (scanner.scan level p).1 = .ok result) (hpersisted : result.persisted = true) :
    ∃ after, (scanner.scan level p).2.store = some after ∧
      result.ReadFrom p.groupIds scanner.time after := by
  have hevaluate := scan_evaluate scanner level p
  cases hscores : scanner.evaluate level p with
  | error cause =>
    rw [hscores] at hevaluate
    cases hevaluate.symm.trans hscan
  | ok scores =>
    obtain ⟨reports, system⟩ := scores
    rw [hscores] at hevaluate
    obtain ⟨done, t, -, hall⟩ := hevaluate
    rw [hall] at hscan ⊢
    cases hscan
    obtain ⟨after, hafter, hstored⟩ := exists_stored_of_persisted hsink hpersisted
    obtain ⟨hnames, hplain, hsystem⟩ := records_of_evaluate hscores
    have hsystemPlain := plain_of_systemRecord hsystem
    have hlatest : p.groupIds.mapM (fun g => after.latestGroup (.string g)) =
        .ok (reports.map fun report => some report.record.withoutUnits) := by
      rw [← hnames, mapM_eq_ok_iff, List.forall₂_map_left_iff, List.forall₂_map_right_iff,
        List.forall₂_same]
      have hdistinct' : ((reports.map (·.record)).map GroupRecord.groupId).Nodup := by
        rwa [List.map_map, Function.comp_def, hnames]
      exact fun report hreport => Store.latestGroup_of_storeScan hs htime hplain hdistinct' hstored
        report.record (List.mem_map_of_mem hreport)
    refine ⟨after, hafter, hnames, hlatest, ?_, ?_⟩
    · have hrecords : (reports.map fun report => some report.record.withoutUnits).filterMap id =
          (reports.map (·.record)).map GroupRecord.withoutUnits := by
        simp [List.filterMap_map, Function.comp_def]
      rw [Store.recomputed, hlatest]
      change Except.mapError _ (systemRecord (List.filterMap id _)) = _
      rw [hrecords, systemRecord_withoutUnits, hsystem]
      rfl
    · obtain ⟨id, hhistory⟩ := Store.systemHistory_of_storeScan hs htime hsystemPlain hstored
      obtain ⟨fields, hfields, hrow⟩ := hsystemPlain.toJson_row id scanner.time
      refine ⟨id, fields, hfields, fun limit hpos hlimit => ?_⟩
      obtain ⟨rest, hrest⟩ := hhistory limit hpos hlimit
      exact ⟨_, rest, hrest, hrow⟩

end

/-- **Consistency.** A scan of an export that was stored in a store, whatever happened to the store
before, is read from it again: the latest records of the groups are those of the scan, they make
the record of the system, and this one is the first in the history. -/
theorem scan_is_consistent (e : FlowExport) (scanner : Scanner) (level : Json) (retention : Int)
    (ops : List Store.Operation) {result : ScanResult}
    (hsink : scanner.sink =
      some (.store (Store.Operation.run ops { retentionDays := retention }).2))
    (htime : ∀ stamp ∈ (Store.Operation.run ops { retentionDays := retention }).2.stamps,
      stamp ≤ scanner.time)
    (hscan : (scanner.scan level e).1 = .ok result) (hpersisted : result.persisted = true) :
    ∃ after, (scanner.scan level e).2.store = some after ∧
      result.ReadFrom e.groupIds scanner.time after :=
  readFrom_of_persisted e.nodup_groupIds (Store.Operation.recorded_run retention ops) hsink htime
    hscan hpersisted

/-- A tab with a unit that has a breakpoint. -/
def oneTab : FlowExport :=
  .ofItems [
    .object [("id", .string "t"), ("type", .string "tab"), ("label", .string "Main")],
    .object [("id", .string "u"), ("type", .string "function"), ("z", .string "t"),
      ("func", .string "debugger;")]]

/-- Records of the same group and of a system. -/
def scannedBefore : List Store.Operation :=
  [.group { groupId := .string "t", totalIssues := .int 7 } "2024-05-09T10:00:00",
    .system { affectedUnits := .int 7 } "2024-05-09T10:00:00"]

/-- The scan of the tab into the store that holds these records, at the time of these records. -/
def scannedAgain : Scanner :=
  { reader := Script.reader
    sink := some (.store (Store.Operation.run scannedBefore { retentionDays := 7 }).2)
    time := "2024-05-09T10:00:00" }

/-- A scan at the very time of the records that are there is read again all the same. -/
theorem scan_is_consistent_same_time :
    (∀ stamp ∈ (Store.Operation.run scannedBefore { retentionDays := 7 }).2.stamps,
        stamp ≤ scannedAgain.time) ∧
      ∃ result after, (scannedAgain.scan (.int 2) oneTab).1 = .ok result ∧
        result.persisted = true ∧ result.system.affectedUnits = 1 ∧
        (scannedAgain.scan (.int 2) oneTab).2.store = some after ∧
        result.ReadFrom oneTab.groupIds scannedAgain.time after := by
  have htime : ∀ stamp ∈ (Store.Operation.run scannedBefore { retentionDays := 7 }).2.stamps,
      stamp ≤ scannedAgain.time := by
    decide
  have hresult : ((scannedAgain.scan (.int 2) oneTab).1.map fun r =>
      (r.persisted, r.system.affectedUnits)).toOption = some (true, 1) := by
    decide +kernel
  refine ⟨htime, ?_⟩
  cases hscan : (scannedAgain.scan (.int 2) oneTab).1 with
  | error cause =>
    rw [hscan] at hresult
    cases hresult
  | ok result =>
    rw [hscan] at hresult
    have hfound := Option.some.inj hresult
    have hpersisted : result.persisted = true := congrArg Prod.fst hfound
    obtain ⟨after, hafter, hread⟩ := scan_is_consistent oneTab scannedAgain (.int 2) 7 scannedBefore
      rfl htime hscan hpersisted
    exact ⟨result, after, rfl, hpersisted, congrArg Prod.snd hfound, hafter, hread⟩

end FlowLint
