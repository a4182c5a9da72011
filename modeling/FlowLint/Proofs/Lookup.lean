import FlowLint.Proofs.Survey

/-!
# Looking names up

Resolution on lists of declarations `D` and references `R`, and how it changes when the trees that
they come from become parts of a larger tree:

* one step further up (`resolve_under`), all paths get longer and nothing else happens;
* side by side (`resolve_append_left`), parts with different scopes do not see each other;
* inside one more scope (`resolve_enclose`), that scope is asked last.

On the lists of a whole tree this is `Resolves` (`refersTo_iff_resolves`).
-/

namespace FlowLint.Scoping

open Script

variable {D D' : List (Mark Binding)} {R R' : List (Mark String)} {e : Exemption}

/-! ## Scopes around marks -/

section Around

variable {α : Type} {P Q : Path → Prop} {ms ms' : List (Mark α)}

/-- All scopes around the marks of a list satisfy a condition. -/
def Around (P : Path → Prop) (ms : List (Mark α)) : Prop :=
  ∀ m ∈ ms, ∀ t ∈ m.scopes, P t

theorem around_own (P : Path → Prop) (xs : List (Path × α)) : Around P (xs.map Mark.own) := by
  intro m hm t ht
  obtain ⟨x, -, rfl⟩ := List.mem_map.mp hm
  cases ht

theorem Around.imp (h : Around P ms) (hpq : ∀ t, P t → Q t) : Around Q ms :=
  fun m hm t ht => hpq t (h m hm t ht)

theorem Around.append (h : Around P ms) (h' : Around P ms') : Around P (ms ++ ms') :=
  fun m hm => (List.mem_append.mp hm).elim (h m) (h' m)

theorem Around.enclose (h : Around P ms) (hp : P []) : Around P (ms.map Mark.enclose) := by
  intro m hm t ht
  obtain ⟨m', hm', rfl⟩ := List.mem_map.mp hm
  rcases List.mem_append.mp ht with ht | ht
  · exact h m' hm' t ht
  · cases List.mem_singleton.mp ht
    exact hp

/-- A path starts with the step to one of the nodes to look at. -/
def StartsIn (looks : List Look) (t : Path) : Prop :=
  ∃ l ∈ looks, t.head? = some l.step

theorem around_collectAt (around within : Role → Node → List (Path × α)) (looks : List Look) :
    Around (StartsIn looks) (collectAt around within looks) := by
  intro m hm t ht
  obtain ⟨l, hl, m', -, rfl⟩ := mem_collectAt.mp hm
  obtain ⟨t', -, rfl⟩ := List.mem_map.mp ht
  exact ⟨l, hl, rfl⟩

end Around

/-! ## Resolution on lists -/

/-- Does a scope declare a name? -/
def holds (D : List (Mark Binding)) (name : String) (scope : Path) : Bool :=
  D.any fun d => d.scopes.head? = some scope ∧ d.item.name = name

/-- The innermost scope around a reference that declares its name. -/
def resolve (D : List (Mark Binding)) (r : Mark String) : Option Path :=
  r.scopes.find? (holds D r.item)

/-- Does a reference to a name resolve to a scope? -/
def refersTo (D : List (Mark Binding)) (R : List (Mark String)) (name : String) (scope : Path) :
    Bool :=
  R.any fun r => r.item = name ∧ resolve D r = some scope

/-- Is a declaration reported, which is in a scope of the tree? -/
def reported (e : Exemption) (D : List (Mark Binding)) (R : List (Mark String))
    (d : Mark Binding) : Bool :=
  d.scopes.head?.any fun scope => !refersTo D R d.item.name scope && !e.covers d.item

theorem holds_iff {name : String} {scope : Path} :
    holds D name scope ↔ ∃ d ∈ D, d.scopes.head? = some scope ∧ d.item.name = name := by
  simp [holds]

theorem resolve_eq_some_iff {r : Mark String} {scope : Path} :
    resolve D r = some scope ↔ holds D r.item scope ∧
      ∃ inner outer, r.scopes = inner ++ scope :: outer ∧ ∀ t ∈ inner, ¬ holds D r.item t := by
  simp [resolve, List.find?_eq_some_iff_append]

theorem refersTo_iff {name : String} {scope : Path} :
    refersTo D R name scope ↔ ∃ r ∈ R, r.item = name ∧ resolve D r = some scope := by
  simp [refersTo]

/-- Only scopes around a reference matter to it. -/
theorem resolve_congr {r : Mark String} (h : ∀ t ∈ r.scopes, holds D r.item t = holds D' r.item t) :
    resolve D r = resolve D' r := by
  obtain ⟨path, scopes, name⟩ := r
  simp only [resolve] at h ⊢
  induction scopes with
  | nil => rfl
  | cons t ts ih =>
    rw [List.find?_cons, List.find?_cons, h t List.mem_cons_self,
      ih fun t' ht' => h t' (List.mem_cons_of_mem _ ht')]

/-! ## Seen from one step further up -/

theorem holds_under (s : Step) (name : String) (scope : Path) :
    holds (D.map (Mark.under s)) name (s :: scope) = holds D name scope := by
  rw [Bool.eq_iff_iff]
  simp [holds_iff]

theorem resolve_under (s : Step) (r : Mark String) :
    resolve (D.map (Mark.under s)) (r.under s) = (resolve D r).map (s :: ·) := by
  have h : holds (D.map (Mark.under s)) r.item ∘ (s :: ·) = holds D r.item :=
    funext fun t => holds_under s r.item t
  rw [resolve, Mark.under_scopes, Mark.under_item, List.find?_map, h]
  rfl

theorem refersTo_under (s : Step) (name : String) (scope : Path) :
    refersTo (D.map (Mark.under s)) (R.map (Mark.under s)) name (s :: scope) =
      refersTo D R name scope := by
  simp only [refersTo, List.any_map, Function.comp_def, resolve_under]
  congr 1
  funext r
  cases h : resolve D r <;> simp

theorem reported_under (s : Step) (d : Mark Binding) :
    reported e (D.map (Mark.under s)) (R.map (Mark.under s)) (d.under s) = reported e D R d := by
  cases h : d.scopes <;> simp [reported, h, refersTo_under]

/-! ## Parts side by side -/

/-- All scopes around declarations and references satisfy a condition. -/
structure Within (P : Path → Prop) (D : List (Mark Binding)) (R : List (Mark String)) : Prop where
  declarations : Around P D
  references : Around P R

namespace Within

variable {P Q : Path → Prop}

theorem own (P : Path → Prop) (ds : List (Path × Binding)) (rs : List (Path × String)) :
    Within P (ds.map Mark.own) (rs.map Mark.own) :=
  ⟨around_own P ds, around_own P rs⟩

theorem imp (h : Within P D R) (hpq : ∀ t, P t → Q t) : Within Q D R :=
  ⟨h.declarations.imp hpq, h.references.imp hpq⟩

theorem append (h : Within P D R) (h' : Within P D' R') : Within P (D ++ D') (R ++ R') :=
  ⟨h.declarations.append h'.declarations, h.references.append h'.references⟩

theorem enclose (h : Within P D R) (hp : P []) :
    Within P (D.map Mark.enclose) (R.map Mark.enclose) :=
  ⟨h.declarations.enclose hp, h.references.enclose hp⟩

end Within

section Append

variable {P : Path → Prop}

theorem holds_append (name : String) (scope : Path) :
    holds (D ++ D') name scope = (holds D name scope || holds D' name scope) :=
  List.any_append

theorem holds_eq_false (h : Around P D) {name : String} {scope : Path}
    (hs : ¬ P scope) : holds D name scope = false := by
  rw [← Bool.not_eq_true, holds_iff]
  rintro ⟨d, hd, hh, -⟩
  exact hs (h d hd scope (List.mem_of_head? hh))

theorem resolve_mem {r : Mark String} {scope : Path} (h : resolve D r = some scope) :
    scope ∈ r.scopes :=
  List.mem_of_find?_eq_some h

theorem refersTo_eq_false (h : Around P R) {name : String} {scope : Path}
    (hs : ¬ P scope) : refersTo D R name scope = false := by
  rw [← Bool.not_eq_true, refersTo_iff]
  rintro ⟨r, hr, -, hh⟩
  exact hs (h r hr scope (resolve_mem hh))

variable (h : Within P D R) (h' : Within (¬ P ·) D' R')

include h h'

theorem resolve_append_left {r : Mark String} (hr : r ∈ R) :
    resolve (D ++ D') r = resolve D r := by
  refine resolve_congr fun t ht => ?_
  have ht' := not_not_intro (h.references r hr t ht)
  rw [holds_append, holds_eq_false h'.declarations ht', Bool.or_false]

theorem resolve_append_right {r : Mark String} (hr : r ∈ R') :
    resolve (D ++ D') r = resolve D' r := by
  refine resolve_congr fun t ht => ?_
  rw [holds_append, holds_eq_false h.declarations (h'.references r hr t ht), Bool.false_or]

theorem refersTo_append (name : String) (scope : Path) :
    refersTo (D ++ D') (R ++ R') name scope =
      (refersTo D R name scope || refersTo D' R' name scope) := by
  rw [Bool.eq_iff_iff, Bool.or_eq_true, refersTo_iff, refersTo_iff, refersTo_iff]
  constructor
  · rintro ⟨r, hr, hn, hs⟩
    rcases List.mem_append.mp hr with hr | hr
    · exact .inl ⟨r, hr, hn, resolve_append_left h h' hr ▸ hs⟩
    · exact .inr ⟨r, hr, hn, resolve_append_right h h' hr ▸ hs⟩
  · rintro (⟨r, hr, hn, hs⟩ | ⟨r, hr, hn, hs⟩)
    · exact ⟨r, List.mem_append_left _ hr, hn, (resolve_append_left h h' hr).trans hs⟩
    · exact ⟨r, List.mem_append_right _ hr, hn, (resolve_append_right h h' hr).trans hs⟩

theorem reported_append_left {d : Mark Binding} (hd : d ∈ D) :
    reported e (D ++ D') (R ++ R') d = reported e D R d := by
  unfold reported
  rcases hs : d.scopes.head? with _ | t
  · rfl
  · have ht := h.declarations d hd t (List.mem_of_head? hs)
    simp [refersTo_append h h', refersTo_eq_false h'.references (not_not_intro ht)]

theorem reported_append_right {d : Mark Binding} (hd : d ∈ D') :
    reported e (D ++ D') (R ++ R') d = reported e D' R' d := by
  unfold reported
  rcases hs : d.scopes.head? with _ | t
  · rfl
  · have ht := h'.declarations d hd t (List.mem_of_head? hs)
    simp [refersTo_append h h', refersTo_eq_false h.references ht]

end Append

/-! ## Inside one more scope -/

section Enclose

theorem holds_enclose_of_ne {scope : Path} (hs : scope ≠ []) (name : String) :
    holds (D.map Mark.enclose) name scope = holds D name scope := by
  rw [Bool.eq_iff_iff, holds_iff, holds_iff]
  simp only [List.mem_map, exists_exists_and_eq_and, Mark.enclose_scopes, Mark.enclose_item]
  refine exists_congr fun d => and_congr_right fun _ => and_congr_left fun _ => ?_
  cases d.scopes <;> simp [hs.symm]

/-- The new scope holds what belonged to no scope of the tree before. -/
theorem holds_enclose_nil (hD : Around (· ≠ []) D) (name : String) :
    holds (D.map Mark.enclose) name [] =
      ((D.filter (·.scopes.isEmpty)).map Mark.item).any (·.name = name) := by
  rw [Bool.eq_iff_iff, holds_iff, List.any_eq_true]
  simp only [List.mem_map, List.mem_filter, List.isEmpty_iff, decide_eq_true_eq]
  constructor
  · rintro ⟨_, ⟨d, hd, rfl⟩, hh, hn⟩
    cases h : d.scopes with
    | nil => exact ⟨d.item, ⟨d, ⟨hd, h⟩, rfl⟩, hn⟩
    | cons t ts =>
      have ht : t ≠ [] := hD d hd t (h ▸ List.mem_cons_self)
      simp [h, ht] at hh
  · rintro ⟨_, ⟨d, ⟨hd, h⟩, rfl⟩, hn⟩
    exact ⟨_, ⟨d, hd, rfl⟩, by simp [h], hn⟩

/-- Around a reference the new scope comes last. -/
theorem resolve_enclose {r : Mark String} (hr : ∀ t ∈ r.scopes, t ≠ []) :
    resolve (D.map Mark.enclose) r.enclose =
      (resolve D r).or (if holds (D.map Mark.enclose) r.item [] then some [] else none) := by
  have h : r.scopes.find? (holds (D.map Mark.enclose) r.item) = resolve D r :=
    resolve_congr (r := r) fun t ht => holds_enclose_of_ne (hr t ht) r.item
  rw [resolve, Mark.enclose, List.find?_append, h, List.find?_singleton]

theorem refersTo_enclose_of_ne (hR : Around (· ≠ []) R) {scope : Path}
    (hs : scope ≠ []) (name : String) :
    refersTo (D.map Mark.enclose) (R.map Mark.enclose) name scope = refersTo D R name scope := by
  rw [Bool.eq_iff_iff, refersTo_iff, refersTo_iff]
  simp only [List.mem_map]
  constructor
  · rintro ⟨_, ⟨r, hr, rfl⟩, hn, hh⟩
    rw [resolve_enclose (hR r hr)] at hh
    refine ⟨r, hr, hn, ?_⟩
    cases h : resolve D r with
    | none =>
      rw [h] at hh
      split at hh <;> simp [hs.symm] at hh
    | some t => rw [h] at hh; exact hh
  · rintro ⟨r, hr, hn, hh⟩
    exact ⟨_, ⟨r, hr, rfl⟩, hn, by rw [resolve_enclose (hR r hr), hh]; rfl⟩

/-- The references that resolve to the new scope are those that found no scope before. -/
theorem refersTo_enclose_nil (hR : Around (· ≠ []) R) (name : String) :
    refersTo (D.map Mark.enclose) (R.map Mark.enclose) name [] =
      (holds (D.map Mark.enclose) name [] &&
        ((R.filter fun r => (resolve D r).isNone).map Mark.item).contains name) := by
  rw [Bool.eq_iff_iff, refersTo_iff, Bool.and_eq_true, List.contains_iff_mem]
  simp only [List.mem_map, List.mem_filter, Option.isNone_iff_eq_none]
  constructor
  · rintro ⟨_, ⟨r, hr, rfl⟩, rfl, hh⟩
    rw [resolve_enclose (hR r hr)] at hh
    cases h : resolve D r with
    | none =>
      rw [h] at hh
      split at hh
      · exact ⟨‹_›, r, ⟨hr, h⟩, rfl⟩
      · cases hh
    | some t =>
      rw [h] at hh
      cases hh
      exact absurd rfl (hR r hr _ (resolve_mem h))
  · rintro ⟨hn, r, ⟨hr, h⟩, rfl⟩
    exact ⟨_, ⟨r, hr, rfl⟩, rfl, by rw [resolve_enclose (hR r hr), h, if_pos hn]; rfl⟩

end Enclose

/-! ## The lists of a whole tree -/

theorem holds_iff_declaresName {root : Node} {name : String} {scope : Path} :
    holds (declarations .use root) name scope ↔ DeclaresName root scope name := by
  rw [holds_iff]
  constructor
  · rintro ⟨⟨path, scopes, b⟩, hd, hh, rfl⟩
    obtain ⟨scopes, rfl⟩ := List.head?_eq_some_iff.mp hh
    exact ⟨path, b, declares_iff.mpr ⟨scopes, hd⟩, rfl⟩
  · rintro ⟨site, b, hb, rfl⟩
    obtain ⟨scopes, hd⟩ := declares_iff.mp hb
    exact ⟨_, hd, rfl, rfl⟩

theorem refersTo_iff_resolves {root : Node} {name : String} {scope : Path} :
    refersTo (declarations .use root) (references .use root) name scope ↔
      ∃ scopes, Refers root scopes name ∧ Resolves root scopes name scope := by
  rw [refersTo_iff]
  constructor
  · rintro ⟨⟨path, scopes, _⟩, hr, rfl, hs⟩
    rw [resolve_eq_some_iff] at hs
    simp only [holds_iff_declaresName] at hs
    exact ⟨scopes, refers_iff.mpr ⟨path, hr⟩, hs⟩
  · rintro ⟨scopes, hr, hs⟩
    obtain ⟨path, hr⟩ := refers_iff.mp hr
    refine ⟨_, hr, rfl, resolve_eq_some_iff.mpr ?_⟩
    simp only [holds_iff_declaresName]
    exact hs

end FlowLint.Scoping
