import FlowLint.Proofs.Accounting
import FlowLint.Proofs.Consistency

/-!
# Groups of an export

The groups of an export are found in one walk over its nodes, and the units of each group in a walk
of their own. Both look at the same nodes, so that no unit is lost and none is counted twice.

* `FlowExport.functionNodes`: the units among the items of a list.
* `FlowExport.Partitioned`: the groups of an export are a partition of these.
* `FlowExport.ScannedOnce`: the records of a scan count each of them once.
* `FlowExport.partitioned_ofItems`: both hold of every list of items.
-/

namespace FlowLint

open Script (bind_eq_ok mapError_eq_ok mapM_eq_ok_iff)

namespace FlowExport

/-! ## Units and groups -/

/-- The items of a list that are units: objects that are functions with code. -/
def functionNodes (items : List Json) : List Json :=
  items.filter fun item => item.isObject && isUnit item

/-- The units of a group, as nodes. -/
def nodesOf (items : List Json) (groupId : String) : List Json :=
  (functionNodes items).filter fun node => groupOf node = groupId

/-- The groups of an export are a partition of its units. -/
structure Partitioned (items : List Json) (e : FlowExport) : Prop where
  /-- The groups of the units, each once, in the order in which they first appear. -/
  groupIds : FirstSeen ((functionNodes items).map groupOf) e.groupIds
  /-- The units of a group are in the order of the export. -/
  units : ∀ g, e.units g = (nodesOf items g).map unitOf
  nodes_perm : (e.groupIds.flatMap (nodesOf items)).Perm (functionNodes items)
  units_perm : (e.groupIds.flatMap e.units).Perm ((functionNodes items).map unitOf)
  /-- A unit is in its group, and in no other one. -/
  mem_iff : ∀ node ∈ functionNodes items, groupOf node ∈ e.groupIds ∧
    ∀ g, node ∈ nodesOf items g ↔ g = groupOf node
  units_eq_nil_iff : ∀ g, e.units g = [] ↔ g ∉ e.groupIds

variable (items : List Json)

theorem unitNodes_ofItems : (ofItems items).unitNodes = functionNodes items := by
  unfold unitNodes ofItems functionNodes
  rw [List.filter_filter]
  exact List.filter_congr fun item _ => Bool.and_comm _ _

theorem units_ofItems (g : String) : (ofItems items).units g = (nodesOf items g).map unitOf := by
  rw [units, unitNodes_ofItems, nodesOf]

theorem firstSeen_groupIds (e : FlowExport) : FirstSeen (e.unitNodes.map groupOf) e.groupIds :=
  firstSeen_foldl _

theorem firstSeen_groupIds_ofItems :
    FirstSeen ((functionNodes items).map groupOf) (ofItems items).groupIds :=
  unitNodes_ofItems items ▸ firstSeen_groupIds (ofItems items)

theorem partitioned_ofItems : Partitioned items (ofItems items) := by
  have hgroups := firstSeen_groupIds_ofItems items
  have hown : ∀ node ∈ functionNodes items, groupOf node ∈ (ofItems items).groupIds :=
    fun node hnode => (hgroups.mem_iff _).mpr (List.mem_map_of_mem hnode)
  have hperm : ((ofItems items).groupIds.flatMap (nodesOf items)).Perm (functionNodes items) :=
    perm_flatMap_filter hgroups.nodup hown
  constructor
  case groupIds => exact hgroups
  case units => exact units_ofItems items
  case nodes_perm => exact hperm
  case units_perm =>
    have hunits : (ofItems items).units = fun g => (nodesOf items g).map unitOf :=
      funext (units_ofItems items)
    rw [hunits, ← List.map_flatMap]
    exact hperm.map unitOf
  case mem_iff =>
    refine fun node hnode => ⟨hown node hnode, fun g => ?_⟩
    rw [nodesOf, List.mem_filter, decide_eq_true_eq, eq_comm]
    exact and_iff_right hnode
  case units_eq_nil_iff =>
    intro g
    rw [units_ofItems, List.map_eq_nil_iff, nodesOf, List.filter_eq_nil_iff, hgroups.mem_iff,
      List.mem_map]
    simp

/-! ## Scans -/

/-- The records of a scan count each unit once. -/
structure ScannedOnce (items : List Json) (e : FlowExport) (result : ScanResult) : Prop where
  groups : result.reports.map (·.record.groupId) = e.groupIds
  totals : result.reports.map (·.record.totalUnits) =
    e.groupIds.map fun g => ((e.units g).length : Int)
  total : (result.reports.map (·.record.totalUnits)).sum = (functionNodes items).length
  groupCount : result.system.groupCount = ((functionNodes items).map groupOf).toFinset.card

end FlowExport

theorem totalUnits_of_scanReport {scanner : Scanner} {level : Json} {p : UnitProvider} {g : String}
    {report : GroupReport Number} (h : scanner.scanReport level p g = .ok report) :
    report.record.totalUnits = (p.units g).length := by
  obtain ⟨r, hr, h⟩ := bind_eq_ok.mp h
  obtain ⟨samples, hsamples, hr⟩ := bind_eq_ok.mp hr
  rw [record_of_groupReport (mapError_eq_ok.mp h),
    (accounts_of_groupRecord (mapError_eq_ok.mp hr)).totalUnits,
    ← (mapM_eq_ok_iff.mp hsamples).length_eq]

theorem groupCount_of_systemRecord {groups : List (GroupRecord Number)}
    {system : SystemRecord Number} (h : systemRecord groups = Except.ok (ε := Fault) system) :
    system.groupCount = groups.length := by
  have hrounded {overall debt complexity : Number} {affected critical : Int} (h : (do
        let quality ← roundHalfUp 2 overall
        let debt ← roundHalfUp 2 debt
        let complexity ← roundHalfUp 2 complexity
        return ({ overallQuality := larger (decimal 0) quality, technicalDebt := debt, complexity,
                  groupCount := groups.length, affectedUnits := affected,
                  criticalUnits := critical } : SystemRecord Number)) =
        Except.ok (ε := Fault) system) : system.groupCount = groups.length := by
    obtain ⟨quality, -, h⟩ := bind_eq_ok.mp h
    obtain ⟨debt, -, h⟩ := bind_eq_ok.mp h
    obtain ⟨complexity, -, h⟩ := bind_eq_ok.mp h
    cases h
    rfl
  dsimp only [systemRecord] at h
  split at h
  · exact hrounded h
  · obtain ⟨overall, -, h⟩ := bind_eq_ok.mp h
    obtain ⟨debt, -, h⟩ := bind_eq_ok.mp h
    obtain ⟨complexity, -, h⟩ := bind_eq_ok.mp h
    exact hrounded h

namespace FlowExport

theorem scannedOnce {items : List Json} {scanner : Scanner} {level : Json} {result : ScanResult}
    (h : (scanner.scan level (ofItems items)).1 = .ok result) :
    ScannedOnce items (ofItems items) result := by
  have hscores := evaluate_of_scan h
  have hids : result.reports.map (·.record.groupId) = (ofItems items).groupIds :=
    (records_of_evaluate hscores).1
  have hsystem := (records_of_evaluate hscores).2.2
  obtain ⟨n, -, hscores⟩ := bind_eq_ok.mp hscores
  obtain ⟨reports, hreports, hscores⟩ := bind_eq_ok.mp hscores
  obtain ⟨system, -, hscores⟩ := bind_eq_ok.mp hscores
  cases hscores
  have hgroups := firstSeen_groupIds_ofItems items
  have htotals : result.reports.map (·.record.totalUnits) =
      (ofItems items).groupIds.map fun g => (((ofItems items).units g).length : Int) := by
    have heach := (mapM_eq_ok_iff.mp hreports).imp fun _ _ h => (totalUnits_of_scanReport h).symm
    have hlists := List.forall₂_map_left_iff.mpr (List.forall₂_map_right_iff.mpr heach)
    exact (List.forall₂_eq_eq_eq ▸ hlists).symm
  refine ⟨hids, htotals, ?_, ?_⟩
  · have hlength := (partitioned_ofItems items).units_perm.length_eq
    rw [List.length_flatMap, List.length_map] at hlength
    rw [htotals, ← hlength, Nat.cast_list_sum, List.map_map]
    rfl
  · have hset : (ofItems items).groupIds.toFinset =
        ((functionNodes items).map groupOf).toFinset :=
      List.toFinset.ext hgroups.mem_iff
    rw [groupCount_of_systemRecord hsystem, ← hset, List.toFinset_card_of_nodup hgroups.nodup,
      ← hids, List.length_map, List.length_map]

/-- **Partition.** The groups of an export are those of its units, by first appearance, and they
share the units out: each is in one group, and in a group they keep their order. So the records of
a scan count each unit once. -/
theorem groups_partition_units (items : List Json) :
    Partitioned items (ofItems items) ∧
      ∀ (scanner : Scanner) (level : Json) (result : ScanResult),
        (scanner.scan level (ofItems items)).1 = .ok result →
          ScannedOnce items (ofItems items) result :=
  ⟨partitioned_ofItems items, fun _ _ _ => scannedOnce⟩

/-- Units on a tab that is named once by a number and once by a text, on no tab and on the tab
null; one without code, and an item that is no node. -/
def mixedTabs : List Json :=
  [.string "function",
    .object [("type", .string "function"), ("func", .string "f();"), ("z", .int 1)],
    .object [("type", .string "function"), ("func", .string "g();")],
    .object [("type", .string "function"), ("func", .string ""), ("z", .string "1")],
    .object [("type", .string "function"), ("func", .string "h();"), ("z", .string "1")],
    .object [("type", .string "function"), ("func", .string "k();"), ("z", .null)]]

theorem groups_partition_units_mixed :
    let scanner : Scanner := { reader := Script.reader, time := "" }
    (ofItems mixedTabs).groupIds = ["1", "", "None"] ∧ Partitioned mixedTabs (ofItems mixedTabs) ∧
      ∃ result, (scanner.scan (.int 2) (ofItems mixedTabs)).1 = .ok result ∧
        ScannedOnce mixedTabs (ofItems mixedTabs) result ∧
        result.reports.map (·.record.totalUnits) = [2, 1, 1] ∧ result.system.groupCount = 3 := by
  intro scanner
  have hresult : ((scanner.scan (.int 2) (ofItems mixedTabs)).1.map fun r =>
      (r.reports.map (·.record.totalUnits), r.system.groupCount)).toOption =
        some ([2, 1, 1], 3) := by
    decide +kernel
  obtain ⟨hpartitioned, hscanned⟩ := groups_partition_units mixedTabs
  refine ⟨by decide +kernel, hpartitioned, ?_⟩
  cases hscan : (scanner.scan (.int 2) (ofItems mixedTabs)).1 with
  | error cause =>
    rw [hscan] at hresult
    cases hresult
  | ok result =>
    rw [hscan] at hresult
    have hfound := Option.some.inj hresult
    exact ⟨result, rfl, hscanned _ _ _ hscan, congrArg Prod.fst hfound, congrArg Prod.snd hfound⟩

end FlowExport

end FlowLint
