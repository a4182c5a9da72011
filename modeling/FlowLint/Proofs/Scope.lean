import FlowLint.Proofs.Lookup

/-!
# The analysis finds the unused variables

The analysis in `FlowLint/Scope.lean` works from the inside out: references wait until a scope
closes that declares their name. `FlowLint/Proofs/Resolution.lean` says from the outside in which
scope a reference resolves to. Here the two are brought together.

* `Summary` is the invariant: what a `Usage` must say about the declarations and references of a
  tree. It is kept by every way in which usages are built: `Summary.under`, `Summary.append`,
  `Summary.close`.
* `usage_eq` is the analysis of one node in terms of what is looked at below it, and `summary` the
  invariant for whole trees.
* `unusedBindings_exact`: the bindings reported are exactly the unused variables, in source order.
-/

namespace FlowLint.Scoping

open Script

variable {D D' : List (Mark Binding)} {R R' : List (Mark String)} {e : Exemption}

/-- Two filters that never hold together, and their union. -/
theorem perm_filter_or {α : Type} {p q : α → Bool} {l : List α}
    (h : ∀ a ∈ l, p a = true → q a = false) :
    (l.filter p ++ l.filter q).Perm (l.filter fun a => p a || q a) := by
  have hp : l.filter p = (l.filter fun a => p a || q a).filter p := by
    rw [List.filter_filter]
    exact List.filter_congr fun a _ => by cases p a <;> simp
  have hq : l.filter q = (l.filter fun a => p a || q a).filter (!p ·) := by
    rw [List.filter_filter]
    refine List.filter_congr fun a ha => ?_
    cases hpa : p a with
    | false => simp
    | true => simp [h a ha hpa]
  rw [hp, hq]
  exact List.filter_append_perm _ _

/-! ## Usages sum up lists -/

/-- A usage says about the scope around a tree and about the scopes in it what the declarations
and references of the tree say. -/
structure Summary (e : Exemption) (u : Usage) (D : List (Mark Binding)) (R : List (Mark String)) :
    Prop where
  declared : u.declared = (D.filter (·.scopes.isEmpty)).map Mark.item
  pending : u.pending = (R.filter fun r => (resolve D r).isNone).map Mark.item
  unused : u.unused.Perm ((D.filter (reported e D R)).map Mark.item)

namespace Summary

variable {u v : Usage}

theorem under (h : Summary e u D R) (s : Step) :
    Summary e u (D.map (Mark.under s)) (R.map (Mark.under s)) where
  declared := by
    rw [h.declared, List.filter_map, List.map_map]
    simp [Function.comp_def]
  pending := by
    rw [h.pending, List.filter_map, List.map_map]
    simp [Function.comp_def, resolve_under]
  unused := by
    rw [List.filter_map, List.map_map]
    simpa [Function.comp_def, reported_under] using h.unused

theorem append {P : Path → Prop} (hu : Summary e u D R) (hv : Summary e v D' R')
    (h : Within P D R) (h' : Within (¬ P ·) D' R') :
    Summary e (u ++ v) (D ++ D') (R ++ R') where
  declared := by
    show u.declared ++ v.declared = _
    rw [hu.declared, hv.declared, List.filter_append, List.map_append]
  pending := by
    show u.pending ++ v.pending = _
    rw [hu.pending, hv.pending, List.filter_append, List.map_append]
    congr 2
    · exact List.filter_congr fun r hr => by rw [resolve_append_left h h' hr]
    · exact List.filter_congr fun r hr => by rw [resolve_append_right h h' hr]
  unused := by
    show (u.unused ++ v.unused).Perm _
    rw [List.filter_append, List.map_append,
      List.filter_congr fun d hd => reported_append_left h h' hd,
      List.filter_congr fun d hd => reported_append_right h h' hd]
    exact hu.unused.append hv.unused

theorem declares_eq (hu : Summary e u D R) (h : Within (· ≠ []) D R) (name : String) :
    u.declares name = holds (D.map Mark.enclose) name [] := by
  rw [holds_enclose_nil h.declarations, ← hu.declared]
  rfl

/-- In the new scope nothing else is reported than before, except for declarations that now
belong to a scope of the tree. -/
theorem reported_enclose (hu : Summary e u D R) (h : Within (· ≠ []) D R) {d : Mark Binding}
    (hd : d ∈ D) :
    reported e (D.map Mark.enclose) (R.map Mark.enclose) d.enclose =
      (reported e D R d ||
        (!u.pending.contains d.item.name && !e.covers d.item) && d.scopes.isEmpty) := by
  cases hs : d.scopes with
  | nil =>
    have hh : holds (D.map Mark.enclose) d.item.name [] = true :=
      holds_iff.mpr ⟨_, List.mem_map_of_mem hd, by simp [hs], rfl⟩
    simp [reported, hs, refersTo_enclose_nil h.references, hh, ← hu.pending]
  | cons t ts =>
    have ht : t ≠ [] := h.declarations d hd t (hs ▸ List.mem_cons_self)
    simp [reported, hs, refersTo_enclose_of_ne h.references ht]

theorem close (hu : Summary e u D R) (h : Within (· ≠ []) D R) :
    Summary e (u.close e) (D.map Mark.enclose) (R.map Mark.enclose) where
  declared := by
    show [] = _
    simp [List.filter_map, Function.comp_def]
  pending := by
    show u.pending.filter (fun name => !u.declares name) = _
    rw [hu.pending, List.filter_map, List.filter_filter, List.filter_map, List.map_map]
    refine congrArg _ (List.filter_congr fun r hr => ?_)
    simp only [Function.comp_apply, resolve_enclose (h.references r hr), hu.declares_eq h]
    cases resolve D r <;> cases holds (D.map Mark.enclose) r.item [] <;> simp
  unused := by
    show (u.unused ++ u.declared.filter _).Perm _
    have hr : D.filter (reported e (D.map Mark.enclose) (R.map Mark.enclose) ∘ Mark.enclose) = _ :=
      List.filter_congr fun d hd => hu.reported_enclose h hd
    rw [List.filter_map, List.map_map, hr, hu.declared, List.filter_map, List.filter_filter]
    refine (hu.unused.append_right _).trans ?_
    rw [← List.map_append]
    refine (perm_filter_or fun d _ hd => ?_).map Mark.item
    cases hs : d.scopes <;> simp [reported, hs] at hd ⊢

end Summary

/-! ## The analysis follows the looks -/

section Usage

variable (e)

@[simp] theorem empty_append (u : Usage) : ({} : Usage) ++ u = u := by
  cases u; rfl

@[simp] theorem append_empty (u : Usage) : u ++ ({} : Usage) = u := by
  show Usage.append u {} = u
  simp [Usage.append]

@[simp] theorem append_assoc (u v w : Usage) : u ++ v ++ w = u ++ (v ++ w) := by
  show Usage.append (Usage.append u v) w = Usage.append u (Usage.append v w)
  simp [Usage.append]

@[simp] theorem close_empty : ({} : Usage).close e = {} := rfl

/-- What the nodes to look at contribute. -/
def usageOf (looks : List Look) : Usage :=
  looks.foldr (fun l u => usage e l.role l.node ++ u) {}

@[simp] theorem usageOf_nil : usageOf e [] = {} := rfl

@[simp] theorem usageOf_append (ls ls' : List Look) :
    usageOf e (ls ++ ls') = usageOf e ls ++ usageOf e ls' := by
  induction ls with
  | nil => rfl
  | cons l ls ih =>
    show usage e l.role l.node ++ usageOf e (ls ++ ls') = _
    rw [ih, ← append_assoc]
    rfl

@[simp] theorem usageAll_nil (role : Role) : usageAll e role [] = {} := by
  rw [usageAll]

@[simp] theorem usageAll_append (role : Role) (ms ns : List Node) :
    usageAll e role (ms ++ ns) = usageAll e role ms ++ usageAll e role ns := by
  induction ms with
  | nil => rw [List.nil_append, usageAll_nil, empty_append]
  | cons m ms ih => rw [List.cons_append, usageAll, usageAll, ih, append_assoc]

@[simp] theorem usageOpt_eq (role : Role) (node : Option Node) :
    usageOpt e role node = usageAll e role node.toList := by
  cases node with
  | none => rw [Option.toList, usageAll, usageOpt]
  | some n => rw [Option.toList, usageAll, usageAll, usageOpt, append_empty]

@[simp] theorem usageOf_looksAt (part : Part) (role : Role) (nodes : List Node) :
    usageOf e (looksAt part role nodes) = usageAll e role nodes := by
  suffices h : ∀ k, usageOf e ((nodes.zipIdx k).map fun x => ⟨(part, x.2), role, x.1⟩) =
      usageAll e role nodes from h 0
  induction nodes with
  | nil => exact fun k => by rw [usageAll]; rfl
  | cons n ns ih =>
    intro k
    rw [usageAll, ← ih (k + 1)]
    rfl

@[simp] theorem declaring_eq (kind : BindingKind) (name : Option Node) :
    declaring kind name = { declared := (declaredName kind name).map Prod.snd } := by
  fun_cases declaredName kind name
  · rfl
  · unfold declaring
    grind

@[simp] theorem isGivenFunction_eq (init : Option Node) :
    isGivenFunction init = init.any Node.isFunction := by
  cases init <;> rfl

/-- What a node contributes: its own declarations and references, what is looked at in the scope
it stands in, and the closed scope that it opens. -/
theorem usage_eq (role : Role) (n : Node) :
    usage e role n =
      ({ declared := (declaredAround role n).map Prod.snd
         pending := (referredAround role n).map Prod.snd } : Usage)
        ++ usageOf e (looksOutside role n)
        ++ (({ declared := (declaredWithin role n).map Prod.snd } : Usage)
          ++ usageOf e (looksInside role n)).close e := by
  cases n with
  | function kind name params body synthetic r =>
    cases kind <;> cases role <;>
      simp [usage, declaredAround, referredAround, declaredWithin, looksOutside, looksInside]
  | classNode name declared heritage members r =>
    cases declared <;> cases role <;>
      simp [usage, declaredAround, referredAround, declaredWithin, looksOutside, looksInside]
  | member object property computed r =>
    cases computed <;> cases role <;>
      simp [usage, declaredAround, referredAround, declaredWithin, looksOutside, looksInside]
  | patternProperty key value r =>
    cases role with
    | bind kind f =>
      -- Whether the key is looked at depends on what it is.
      rcases key with _ | key
      · simp [usage, declaredAround, referredAround, declaredWithin, looksOutside, looksInside,
          isEvaluatedKey]
      · cases key <;>
          simp [usage, declaredAround, referredAround, declaredWithin, looksOutside, looksInside,
            isEvaluatedKey]
    | _ =>
      simp [usage, declaredAround, referredAround, declaredWithin, looksOutside, looksInside,
        Node.children]
  | _ =>
    cases role <;>
      simp [usage, declaredAround, referredAround, declaredWithin, looksOutside, looksInside,
        Node.children]

end Usage

/-! ## The summary of a tree -/

theorem Summary.own (ds : List (Path × Binding)) (rs : List (Path × String)) :
    Summary e { declared := ds.map Prod.snd, pending := rs.map Prod.snd }
      (ds.map Mark.own) (rs.map Mark.own) where
  declared := by simp [List.filter_map, Function.comp_def]
  pending := by simp [List.filter_map, Function.comp_def, resolve]
  unused := by simp [List.filter_map, Function.comp_def, reported]

/-- A node's own marks have no scopes around them, so they are apart from all others. -/
theorem Summary.own_append {v : Usage} (hv : Summary e v D R) (ds : List (Path × Binding))
    (rs : List (Path × String)) :
    Summary e ({ declared := ds.map Prod.snd, pending := rs.map Prod.snd } ++ v)
      (ds.map Mark.own ++ D) (rs.map Mark.own ++ R) :=
  (Summary.own ds rs).append hv (.own (fun _ => False) ds rs)
    ⟨fun _ _ _ _ => not_false, fun _ _ _ _ => not_false⟩

/-- The declarations at the nodes to look at. -/
abbrev declarationsAt (looks : List Look) : List (Mark Binding) :=
  collectAt declaredAround declaredWithin looks

/-- The references at the nodes to look at. -/
abbrev referencesAt (looks : List Look) : List (Mark String) :=
  collectAt referredAround (fun _ _ => []) looks

theorem within_collectAt (looks : List Look) :
    Within (StartsIn looks) (declarationsAt looks) (referencesAt looks) :=
  ⟨around_collectAt _ _ looks, around_collectAt _ _ looks⟩

theorem Summary.collectAt {looks : List Look} (hd : looks.Pairwise (·.step ≠ ·.step))
    (h : ∀ l ∈ looks, Summary e (usage e l.role l.node) (declarations l.role l.node)
      (references l.role l.node)) :
    Summary e (usageOf e looks) (declarationsAt looks) (referencesAt looks) := by
  induction looks with
  | nil => exact Summary.own [] []
  | cons l looks ih =>
    obtain ⟨hl, hd⟩ := List.pairwise_cons.mp hd
    have hfirst := (h l List.mem_cons_self).under l.step
    have hrest := ih hd fun l' hl' => h l' (List.mem_cons_of_mem _ hl')
    have hstart {α : Type} (ms : List (Mark α)) :
        Around (·.head? = some l.step) (ms.map (Mark.under l.step)) := by
      intro m hm t ht
      obtain ⟨m', -, rfl⟩ := List.mem_map.mp hm
      obtain ⟨t', -, rfl⟩ := List.mem_map.mp ht
      rfl
    have happ : ∀ t, StartsIn looks t → ¬ t.head? = some l.step := by
      rintro t ⟨l', hl', hh⟩ hh'
      exact hl l' hl' (Option.some.inj (hh'.symm.trans hh))
    exact hfirst.append hrest ⟨hstart _, hstart _⟩
      ((within_collectAt looks).imp happ)

/-- **Summary.** What the analysis hands outward from a node is what the lists of all its
declarations and references say. -/
theorem summary (e : Exemption) (role : Role) (n : Node) :
    Summary e (usage e role n) (declarations role n) (references role n) := by
  induction role, n using looks_induction with
  | step role n hout hin =>
    have hout := (Summary.collectAt (distinct_looksOutside role n) hout).own_append
      (declaredAround role n) (referredAround role n)
    have hin := (Summary.collectAt (distinct_looksInside role n) hin).own_append
      (declaredWithin role n) []
    have hne : ∀ t, StartsIn (looksInside role n) t → t ≠ [] := by
      rintro _ ⟨l, -, hh⟩ rfl
      cases hh
    have hapart : ∀ t, StartsIn (looksInside role n) t → ¬ StartsIn (looksOutside role n) t := by
      rintro t ⟨l', hl', hh'⟩ ⟨l, hl, hh⟩
      exact step_ne_of_outside_of_inside hl hl' (Option.some.inj (hh.symm.trans hh'))
    have hnil : ¬ StartsIn (looksOutside role n) [] := by
      rintro ⟨l, -, hh⟩
      cases hh
    have hclosed := hin.close ((Within.own _ _ _).append ((within_collectAt _).imp hne))
    rw [usage_eq, declarations, references, collect_eq, collect_eq]
    exact hout.append hclosed ((Within.own _ _ _).append (within_collectAt _))
      (((Within.own _ _ _).append ((within_collectAt _).imp hapart)).enclose hnil)

/-! ## Exactly the unused variables -/

/-- The site of a declaration. -/
def Mark.site (d : Mark Binding) : Site :=
  ⟨d.path, d.scopes.head?.getD [], d.item.name, d.item.range⟩

theorem not_covers_iff {b : Binding} :
    e.covers b = false ↔ (b.kind = .plain ∧ b.holdsFunction = false) ∧ b.name ∉ e.names ∧
      (e.mark = "" ∨ ¬ e.mark.toList <+: b.name.toList) := by
  simp only [Exemption.covers, Bool.or_eq_false_iff, Bool.and_eq_false_iff, bne_eq_false_iff_eq,
    List.contains_eq_mem, decide_eq_false_iff_not, ← List.isPrefixOf_iff_prefix,
    Bool.not_eq_true]
  tauto

theorem reported_iff {d : Mark Binding} :
    reported e D R d ↔ ∃ scope, d.scopes.head? = some scope ∧
      refersTo D R d.item.name scope = false ∧ e.covers d.item = false := by
  cases h : d.scopes.head? <;> simp [reported, h]

theorem mem_reported_iff {root : Node} {s : Site} :
    s ∈ ((declarations .use root).filter
        (reported e (declarations .use root) (references .use root))).map Mark.site ↔
      UnusedVariable e root s := by
  have href : refersTo (declarations .use root) (references .use root) s.name s.scope = false ↔
      ∀ scopes, Refers root scopes s.name → ¬ Resolves root scopes s.name s.scope := by
    rw [← Bool.not_eq_true, refersTo_iff_resolves]
    simp only [not_exists, not_and]
  simp only [List.mem_map, List.mem_filter, reported_iff]
  constructor
  · rintro ⟨⟨path, scopes, name, kind, range, f⟩, ⟨hd, scope, hh, hr, hc⟩, rfl⟩
    obtain ⟨scopes, rfl⟩ := List.head?_eq_some_iff.mp hh
    obtain ⟨⟨rfl, rfl⟩, hnamed, hmarked⟩ := not_covers_iff.mp hc
    obtain ⟨init, hv, hf⟩ := declares_plain_iff (s := ⟨path, scope, name, range⟩).mp
      (declares_iff.mpr ⟨scopes, hd⟩)
    refine ⟨⟨init, hv, ?_⟩, hnamed, hmarked, href.mp hr⟩
    rintro n rfl
    exact hf
  · rintro ⟨⟨init, hv, hf⟩, hnamed, hmarked, hr⟩
    have hinit : init.any Node.isFunction = false := by
      cases init with
      | none => rfl
      | some n => exact hf n rfl
    obtain ⟨scopes, hd⟩ := declares_iff.mp (declares_plain_iff.mpr ⟨init, hv, hinit⟩)
    have hc : e.covers s.binding = false := not_covers_iff.mpr ⟨⟨rfl, rfl⟩, hnamed, hmarked⟩
    exact ⟨_, ⟨hd, s.scope, rfl, href.mpr hr, hc⟩, rfl⟩

theorem le_iff {p q : Position} :
    p.le q ↔ p.line < q.line ∨ p.line = q.line ∧ p.column ≤ q.column := by
  simp [Position.le]

/-- **Exactness.** For every program (or other tree) and every exemption, the bindings reported are
those of the unused variables: each one once, and ordered by where their identifiers start. -/
theorem unusedBindings_exact (e : Exemption) (root : Node) :
    ∃ sites : List Site, (sites.map Site.path).Nodup ∧
      (∀ s, s ∈ sites ↔ UnusedVariable e root s) ∧
      unusedBindings e root = sites.map Site.binding ∧
      sites.Pairwise fun s t => s.range.start.line < t.range.start.line ∨
        s.range.start.line = t.range.start.line ∧
          s.range.start.column ≤ t.range.start.column := by
  let marks := (declarations .use root).filter
    (reported e (declarations .use root) (references .use root))
  have hitems : marks.map Mark.item = (marks.map Mark.site).map Site.binding := by
    rw [List.map_map]
    refine List.map_congr_left fun d hd => ?_
    obtain ⟨scope, -, -, hc⟩ := reported_iff.mp (List.mem_filter.mp hd).2
    obtain ⟨⟨hk, hf⟩, -⟩ := not_covers_iff.mp hc
    obtain ⟨path, scopes, name, kind, range, f⟩ := d
    simp_all [Mark.site, Site.binding]
  have hperm : (unusedBindings e root).Perm ((marks.map Mark.site).map Site.binding) := by
    rw [← hitems]
    exact (List.mergeSort_perm _ _).trans (summary e .use root).unused
  have hsorted : (unusedBindings e root).Pairwise fun a b => a.range.start.le b.range.start :=
    List.pairwise_mergeSort (fun a b c => by simp only [le_iff]; omega)
      (fun a b => by simp only [Bool.or_eq_true, le_iff]; omega) _
  obtain ⟨sites, hsites, hmarks⟩ : ∃ sites : List Site,
      unusedBindings e root = sites.map Site.binding ∧ sites.Perm (marks.map Mark.site) :=
    (congrFun (congrFun (List.eq_map_comp_perm Site.binding) _) _).mpr hperm
  refine ⟨sites, ?_, ?_, hsites, ?_⟩
  · rw [(hmarks.map Site.path).nodup_iff, List.map_map]
    exact (nodup_declarations .use root).sublist (List.filter_sublist.map _)
  · exact fun s => hmarks.mem_iff.trans mem_reported_iff
  · rw [hsites, List.pairwise_map] at hsorted
    exact hsorted.imp fun h => le_iff.mp h

end FlowLint.Scoping
