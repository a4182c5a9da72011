import FlowLint.Proofs.Resolution
import Mathlib.Data.List.Nodup
import Mathlib.Data.List.Perm.Basic

/-!
# All declarations and references of a tree

`Sees` speaks of one identifier at a time. Here all of them are listed, each as a `Mark`: its path
and the paths of the scopes around it.

* `collect` lists what the nodes of a tree have to say, for any kind of marks. A mark is listed
  if and only if a node that is seen makes it (`mem_collect_iff`), and no path is listed twice
  (`nodup_collect`).
* `declarations` and `references` are the two lists that scoping needs. They agree with `Declares`
  (`declares_iff`) and `Refers` (`refers_iff`).
-/

namespace FlowLint.Scoping

open Script

/-! ## Steps to children -/

theorem distinct_looksAt (part : Part) (role : Role) (nodes : List Node) :
    (looksAt part role nodes).Pairwise (·.step ≠ ·.step) := by
  rw [looksAt, List.pairwise_map]
  have h : (nodes.zipIdx.map Prod.snd).Nodup := by
    rw [List.zipIdx_map_snd]; exact List.nodup_range'
  exact (List.pairwise_map.mp h).imp fun hne he => hne (by simpa using he)

theorem distinct_looksOutside (role : Role) (n : Node) :
    (looksOutside role n).Pairwise (·.step ≠ ·.step) := by
  fun_cases looksOutside role n
  all_goals grind [distinct_looksAt, mem_looksAt]

theorem distinct_looksInside (role : Role) (n : Node) :
    (looksInside role n).Pairwise (·.step ≠ ·.step) := by
  fun_cases looksInside role n
  all_goals grind [distinct_looksAt, mem_looksAt]

theorem step_ne_of_outside_of_inside {role : Role} {n : Node} {l l' : Look}
    (hl : l ∈ looksOutside role n) (hl' : l' ∈ looksInside role n) : l.step ≠ l'.step := by
  cases n with
  | function kind name params body synthetic range =>
    cases kind <;> grind [looksOutside, looksInside, mem_looksAt]
  | block statements range => cases role <;> grind [looksOutside, looksInside, mem_looksAt]
  | _ => grind [looksOutside, looksInside]

theorem mem_of_mem_looksAt {part : Part} {role : Role} {nodes : List Node} {l : Look}
    (h : l ∈ looksAt part role nodes) : l.node ∈ nodes :=
  List.mem_of_getElem? (mem_looksAt.mp h).2.2

theorem mem_children_of_mem_looksOutside {role : Role} {n : Node} {l : Look}
    (h : l ∈ looksOutside role n) : l.node ∈ n.children := by
  revert h
  fun_cases looksOutside role n
  all_goals grind [Node.children, mem_of_mem_looksAt]

theorem mem_children_of_mem_looksInside {role : Role} {n : Node} {l : Look}
    (h : l ∈ looksInside role n) : l.node ∈ n.children := by
  revert h
  fun_cases looksInside role n
  all_goals grind [Node.children, mem_of_mem_looksAt]

theorem size_le_sizeAll {n : Node} {ns : List Node} (h : n ∈ ns) : n.size ≤ Node.sizeAll ns := by
  induction ns with
  | nil => cases h
  | cons m ms ih =>
    rw [Node.sizeAll]
    rcases List.mem_cons.mp h with rfl | h
    · omega
    · have hle := ih h
      omega

theorem size_lt_of_mem_children {n c : Node} (h : c ∈ n.children) : c.size < n.size := by
  have hle := size_le_sizeAll h
  rw [Node.size_eq_sizeAll_children n]
  omega

/-- To show something of every node in every role, show it of a node from what is looked at below
it. -/
theorem looks_induction {motive : Role → Node → Prop}
    (step : ∀ role n, (∀ l ∈ looksOutside role n, motive l.role l.node) →
      (∀ l ∈ looksInside role n, motive l.role l.node) → motive role n)
    (role : Role) (n : Node) : motive role n := by
  induction hk : n.size using Nat.strongRecOn generalizing role n with
  | _ k ih =>
    refine step role n (fun l hl => ?_) (fun l hl => ?_)
    · exact ih _ (hk ▸ size_lt_of_mem_children (mem_children_of_mem_looksOutside hl)) _ _ rfl
    · exact ih _ (hk ▸ size_lt_of_mem_children (mem_children_of_mem_looksInside hl)) _ _ rfl

/-! ## Marks -/

/-- Something found at a path, with the scopes around it, innermost first. -/
structure Mark (α : Type) where
  path : Path
  scopes : List Path
  item : α

namespace Mark

variable {α : Type}

/-- A mark at a path from the node that makes it, in the scope that the node stands in. -/
def own (x : Path × α) : Mark α :=
  ⟨x.1, [], x.2⟩

/-- A mark seen from one step further up. -/
def under (s : Step) (m : Mark α) : Mark α :=
  ⟨s :: m.path, m.scopes.map (s :: ·), m.item⟩

/-- A mark inside the scope that the node at the empty path opens. -/
def enclose (m : Mark α) : Mark α :=
  { m with scopes := m.scopes ++ [[]] }

@[simp] theorem own_path (x : Path × α) : (own x).path = x.1 := rfl
@[simp] theorem own_scopes (x : Path × α) : (own x).scopes = [] := rfl
@[simp] theorem own_item (x : Path × α) : (own x).item = x.2 := rfl
@[simp] theorem under_path (s : Step) (m : Mark α) : (m.under s).path = s :: m.path := rfl
@[simp] theorem under_scopes (s : Step) (m : Mark α) :
    (m.under s).scopes = m.scopes.map (s :: ·) := rfl
@[simp] theorem under_item (s : Step) (m : Mark α) : (m.under s).item = m.item := rfl
@[simp] theorem enclose_path (m : Mark α) : m.enclose.path = m.path := rfl
@[simp] theorem enclose_scopes (m : Mark α) : m.enclose.scopes = m.scopes ++ [[]] := rfl
@[simp] theorem enclose_item (m : Mark α) : m.enclose.item = m.item := rfl

end Mark

/-! ## All marks of a tree -/

section Collect

variable {α : Type} (around within : Role → Node → List (Path × α))

/-- Everything found in a tree: `around` gives what a node adds to the scope it stands in, and
`within` what it adds to the scope it opens, each with its path from the node. -/
def collect (role : Role) (n : Node) : List (Mark α) :=
  (around role n).map Mark.own
    ++ (looksOutside role n).attach.flatMap (fun l =>
        (collect l.1.role l.1.node).map (Mark.under l.1.step))
    ++ ((within role n).map Mark.own
        ++ (looksInside role n).attach.flatMap (fun l =>
            (collect l.1.role l.1.node).map (Mark.under l.1.step))).map Mark.enclose
termination_by n.size
decreasing_by
  · exact size_lt_of_mem_children (mem_children_of_mem_looksOutside l.2)
  · exact size_lt_of_mem_children (mem_children_of_mem_looksInside l.2)

/-- Everything found at the nodes to look at. -/
def collectAt (looks : List Look) : List (Mark α) :=
  looks.flatMap fun l => (collect around within l.role l.node).map (Mark.under l.step)

theorem collect_eq (role : Role) (n : Node) :
    collect around within role n =
      (around role n).map Mark.own
        ++ collectAt around within (looksOutside role n)
        ++ ((within role n).map Mark.own
            ++ collectAt around within (looksInside role n)).map Mark.enclose := by
  rw [collect]
  simp [collectAt, List.flatMap_subtype]

variable {around within}

theorem mem_collectAt {looks : List Look} {m : Mark α} :
    m ∈ collectAt around within looks ↔
      ∃ l ∈ looks, ∃ m' ∈ collect around within l.role l.node, m'.under l.step = m := by
  simp only [collectAt, List.mem_flatMap, List.mem_map]

variable (around within) in
/-- A mark that a node below `n` makes. -/
def Found (role : Role) (n : Node) (m : Mark α) : Prop :=
  ∃ path scopes role' k, Sees role n path scopes role' k ∧
    ((∃ p, (p, m.item) ∈ around role' k ∧ m.path = path ++ p ∧ m.scopes = scopes) ∨
     (∃ p, (p, m.item) ∈ within role' k ∧ m.path = path ++ p ∧ m.scopes = path :: scopes))

theorem Found.outside {role : Role} {n : Node} {l : Look} {m : Mark α}
    (hl : l ∈ looksOutside role n) (h : Found around within l.role l.node m) :
    Found around within role n (m.under l.step) := by
  obtain ⟨path, scopes, role', k, hs, h⟩ := h
  refine ⟨_, _, role', k, .outside hl hs, ?_⟩
  rcases h with ⟨p, hp, h1, h2⟩ | ⟨p, hp, h1, h2⟩
  · exact .inl ⟨p, hp, by simp [h1], by simp [h2]⟩
  · exact .inr ⟨p, hp, by simp [h1], by simp [h2]⟩

theorem Found.inside {role : Role} {n : Node} {l : Look} {m : Mark α}
    (hl : l ∈ looksInside role n) (h : Found around within l.role l.node m) :
    Found around within role n (m.under l.step).enclose := by
  obtain ⟨path, scopes, role', k, hs, h⟩ := h
  refine ⟨_, _, role', k, .inside hl hs, ?_⟩
  rcases h with ⟨p, hp, h1, h2⟩ | ⟨p, hp, h1, h2⟩
  · exact .inl ⟨p, hp, by simp [h1], by simp [h2]⟩
  · exact .inr ⟨p, hp, by simp [h1], by simp [h2]⟩

theorem found_of_mem_collect {role : Role} {n : Node} {m : Mark α}
    (hm : m ∈ collect around within role n) : Found around within role n m := by
  induction role, n using looks_induction generalizing m with
  | step role n hout hin =>
    rw [collect_eq, List.mem_append, List.mem_append, List.mem_map] at hm
    rcases hm with (⟨x, hx, rfl⟩ | hm) | hm
    · exact ⟨[], [], role, n, .here, .inl ⟨x.1, hx, rfl, rfl⟩⟩
    · obtain ⟨l, hl, m', hm', rfl⟩ := mem_collectAt.mp hm
      exact .outside hl (hout l hl hm')
    · obtain ⟨m₁, hm₁, rfl⟩ := List.mem_map.mp hm
      rcases List.mem_append.mp hm₁ with hm₁ | hm₁
      · obtain ⟨x, hx, rfl⟩ := List.mem_map.mp hm₁
        exact ⟨[], [], role, n, .here, .inr ⟨x.1, hx, rfl, rfl⟩⟩
      · obtain ⟨l, hl, m', hm', rfl⟩ := mem_collectAt.mp hm₁
        exact .inside hl (hin l hl hm')

/-- What is found below a node that is seen is found from above. -/
theorem mem_collect_of_sees {role role' : Role} {n k : Node} {path : Path} {scopes : List Path}
    {m : Mark α} (hs : Sees role n path scopes role' k)
    (hm : m ∈ collect around within role' k) :
    ⟨path ++ m.path, m.scopes.map (path ++ ·) ++ scopes, m.item⟩ ∈
      collect around within role n := by
  induction hs with
  | here => simpa using hm
  | outside hl _ ih =>
    rw [collect_eq]
    refine List.mem_append_left _ (List.mem_append_right _ (mem_collectAt.mpr ?_))
    exact ⟨_, hl, _, ih hm, by simp [Mark.under, Function.comp_def]⟩
  | inside hl _ ih =>
    have hc := mem_collectAt.mpr ⟨_, hl, _, ih hm, rfl⟩
    rw [collect_eq]
    refine List.mem_append_right _ (List.mem_map.mpr ⟨_, List.mem_append_right _ hc, ?_⟩)
    simp [Mark.under, Mark.enclose, Function.comp_def]

/-- **Marks.** What is collected in a tree are the marks that its nodes make. -/
theorem mem_collect_iff {role : Role} {n : Node} {m : Mark α} :
    m ∈ collect around within role n ↔ Found around within role n m := by
  refine ⟨found_of_mem_collect, ?_⟩
  obtain ⟨mpath, mscopes, item⟩ := m
  rintro ⟨path, scopes, role', k, hs, ⟨p, hp, rfl, rfl⟩ | ⟨p, hp, rfl, rfl⟩⟩
  · have hm : Mark.own (p, item) ∈ collect around within role' k := by
      rw [collect_eq]
      exact List.mem_append_left _ (List.mem_append_left _ (List.mem_map_of_mem hp))
    simpa using mem_collect_of_sees hs hm
  · have hm : (Mark.own (p, item)).enclose ∈ collect around within role' k := by
      rw [collect_eq]
      refine List.mem_append_right _ (List.mem_map_of_mem (List.mem_append_left _ ?_))
      exact List.mem_map_of_mem hp
    simpa using mem_collect_of_sees hs hm

/-- The path of what is found at the nodes to look at starts with the step to one of them. -/
theorem head_of_mem_collectAt {looks : List Look} {p : Path}
    (hp : p ∈ (collectAt around within looks).map Mark.path) :
    ∃ l ∈ looks, p.head? = some l.step := by
  obtain ⟨m, hm, rfl⟩ := List.mem_map.mp hp
  obtain ⟨l, hl, m', -, rfl⟩ := mem_collectAt.mp hm
  exact ⟨l, hl, rfl⟩

theorem nodup_collectAt {looks : List Look} (hd : looks.Pairwise (·.step ≠ ·.step))
    (h : ∀ l ∈ looks, ((collect around within l.role l.node).map Mark.path).Nodup) :
    ((collectAt around within looks).map Mark.path).Nodup := by
  induction looks with
  | nil => exact List.nodup_nil
  | cons l looks ih =>
    obtain ⟨hl, hd⟩ := List.pairwise_cons.mp hd
    have hrest := ih hd fun l' hl' => h l' (List.mem_cons_of_mem _ hl')
    have hfirst : (((collect around within l.role l.node).map (Mark.under l.step)).map
        Mark.path).Nodup := by
      have hc : Mark.path ∘ Mark.under (α := α) l.step = (l.step :: ·) ∘ Mark.path := rfl
      rw [List.map_map, hc, ← List.map_map]
      exact (h l List.mem_cons_self).map (List.cons_injective)
    rw [collectAt, List.flatMap_cons, List.map_append, List.nodup_append]
    refine ⟨hfirst, hrest, fun p hp q hq he => ?_⟩
    obtain ⟨m, hm, rfl⟩ := List.mem_map.mp hp
    obtain ⟨m', -, rfl⟩ := List.mem_map.mp hm
    obtain ⟨l', hl', hh⟩ := head_of_mem_collectAt hq
    exact hl l' hl' (Option.some.inj ((congrArg List.head? he).trans hh))

/-- Different marks have different paths, if that is so for the marks that one node makes and
none of these lies below a node that is looked at. -/
theorem nodup_collect
    (hown : ∀ role n, ((around role n ++ within role n).map Prod.fst).Nodup)
    (hapart : ∀ role n, ∀ x ∈ around role n ++ within role n,
      ∀ l ∈ looksOutside role n ++ looksInside role n, x.1.head? ≠ some l.step)
    (role : Role) (n : Node) : ((collect around within role n).map Mark.path).Nodup := by
  induction role, n using looks_induction with
  | step role n hout hin =>
    have hout := nodup_collectAt (distinct_looksOutside role n) hout
    have hin := nodup_collectAt (distinct_looksInside role n) hin
    have hpaths : ((collect around within role n).map Mark.path).Perm
        ((around role n ++ within role n).map Prod.fst
          ++ ((collectAt around within (looksOutside role n)).map Mark.path
            ++ (collectAt around within (looksInside role n)).map Mark.path)) := by
      simp only [collect_eq, List.map_append, List.map_map, Mark.own, Mark.enclose,
        Function.comp_def, List.append_assoc]
      exact (List.perm_append_comm_assoc _ _ _).append_left _
    rw [hpaths.nodup_iff, List.nodup_append, List.nodup_append]
    refine ⟨hown role n, ⟨hout, hin, ?_⟩, ?_⟩
    · rintro p hp _ hq rfl
      obtain ⟨l, hl, hh⟩ := head_of_mem_collectAt hp
      obtain ⟨l', hl', hh'⟩ := head_of_mem_collectAt hq
      exact step_ne_of_outside_of_inside hl hl' (Option.some.inj (hh.symm.trans hh'))
    · rintro p hp _ hq rfl
      obtain ⟨x, hx, rfl⟩ := List.mem_map.mp hp
      rcases List.mem_append.mp hq with hq | hq
      · obtain ⟨l, hl, hh⟩ := head_of_mem_collectAt hq
        exact hapart role n x hx l (List.mem_append_left _ hl) hh
      · obtain ⟨l, hl, hh⟩ := head_of_mem_collectAt hq
        exact hapart role n x hx l (List.mem_append_right _ hl) hh

end Collect

/-! ## Declarations and references -/

/-- The declaration that a name makes, if it is an identifier. -/
def declaredName (kind : BindingKind) : Option Node → List (Path × Binding)
  | some (.identifier name range) => [([(.name, 0)], ⟨name, kind, range, false⟩)]
  | _ => []

/-- What a node declares in the scope it stands in. -/
def declaredAround : Role → Node → List (Path × Binding)
  | .bind kind f, .identifier name range => [([], ⟨name, kind, range, f⟩)]
  | _, .function .declaration name _ _ _ _ => declaredName .function name
  | _, .classNode name true _ _ _ => declaredName .classDefinition name
  | _, _ => []

/-- What a node declares in the scope it opens. -/
def declaredWithin : Role → Node → List (Path × Binding)
  | _, .function .expression name _ _ _ _ => declaredName .function name
  | _, _ => []

/-- The reference that a node is. -/
def referredAround : Role → Node → List (Path × String)
  | .use, .identifier name _ | .body, .identifier name _ => [([], name)]
  | _, _ => []

/-- All declarations of a tree. The first scope of a mark holds the declaration; a mark without
scopes belongs to the scope around the tree. -/
def declarations : Role → Node → List (Mark Binding) :=
  collect declaredAround declaredWithin

/-- All references of a tree. -/
def references : Role → Node → List (Mark String) :=
  collect referredAround fun _ _ => []

theorem mem_declaredName {kind : BindingKind} {name : Option Node} {x : Path × Binding} :
    x ∈ declaredName kind name ↔
      ∃ text range, name = some (.identifier text range) ∧
        x = ([(.name, 0)], ⟨text, kind, range, false⟩) := by
  fun_cases declaredName kind name
  · simp
  · grind

theorem declares_iff {root : Node} {site scope : Path} {b : Binding} :
    Declares root site scope b ↔
      ∃ scopes, ⟨site, scope :: scopes, b⟩ ∈ declarations .use root := by
  simp only [declarations, mem_collect_iff]
  constructor
  · rintro (h | h | h | h)
    · exact ⟨_, _, _, _, _, h, .inl ⟨[], by simp [declaredAround], by simp, rfl⟩⟩
    · exact ⟨_, _, _, _, _, h, .inl ⟨_, by simp [declaredAround, declaredName], rfl, rfl⟩⟩
    · exact ⟨_, _, _, _, _, h, .inr ⟨_, by simp [declaredWithin, declaredName], rfl, rfl⟩⟩
    · exact ⟨_, _, _, _, _, h, .inl ⟨_, by simp [declaredAround, declaredName], rfl, rfl⟩⟩
  · rintro ⟨scopes, path, scopes', role, n, h, ⟨p, hp, rfl, rfl⟩ | ⟨p, hp, rfl, he⟩⟩
    · revert hp
      fun_cases declaredAround role n
      · intro hp
        cases List.mem_singleton.mp hp
        simpa using Declares.target h
      · intro hp
        obtain ⟨text, range, rfl, he⟩ := mem_declaredName.mp hp
        cases he
        exact .function h
      · intro hp
        obtain ⟨text, range, rfl, he⟩ := mem_declaredName.mp hp
        cases he
        exact .classNode h
      · exact fun hp => absurd hp List.not_mem_nil
    · cases he
      revert hp
      fun_cases declaredWithin role n
      · intro hp
        obtain ⟨text, range, rfl, he⟩ := mem_declaredName.mp hp
        cases he
        exact .ownName h
      · exact fun hp => absurd hp List.not_mem_nil

theorem refers_iff {root : Node} {scopes : List Path} {name : String} :
    Refers root scopes name ↔ ∃ path, ⟨path, scopes, name⟩ ∈ references .use root := by
  simp only [references, mem_collect_iff]
  constructor
  · rintro ⟨path, role, range, h, hr⟩
    refine ⟨path, _, _, _, _, h, .inl ⟨[], ?_, by simp, rfl⟩⟩
    cases role with
    | bind kind f => exact absurd rfl (hr kind f)
    | _ => simp [referredAround]
  · rintro ⟨_, path, _, role, n, h, ⟨p, hp, -, rfl⟩ | ⟨p, hp, -⟩⟩
    · revert hp
      fun_cases referredAround role n
      case case3 => exact fun hp => absurd hp List.not_mem_nil
      all_goals
        intro hp
        cases List.mem_singleton.mp hp
        exact ⟨path, _, _, h, by simp⟩
    · cases hp

/-- A node declares its own name, or the name that it is, and nothing that is looked at. -/
theorem declared_at_name {role : Role} {n : Node} {x : Path × Binding}
    (hx : x ∈ declaredAround role n ++ declaredWithin role n) :
    (declaredAround role n ++ declaredWithin role n) = [x] ∧
      ∀ l ∈ looksOutside role n ++ looksInside role n, x.1.head? ≠ some l.step := by
  have hname {kind : BindingKind} {name : Option Node} (hx : x ∈ declaredName kind name) :
      declaredName kind name = [x] ∧ x.1.head? = some (.name, 0) := by
    obtain ⟨text, range, rfl, rfl⟩ := mem_declaredName.mp hx
    exact ⟨rfl, rfl⟩
  revert hx
  fun_cases declaredAround role n
  case case4 =>
    rw [List.nil_append]
    fun_cases declaredWithin role n
    all_goals grind [looksOutside, looksInside, mem_looksAt]
  all_goals grind [declaredWithin, looksOutside, looksInside, mem_looksAt]

/-- No identifier declares twice. -/
theorem nodup_declarations (role : Role) (n : Node) :
    ((declarations role n).map Mark.path).Nodup := by
  refine nodup_collect (fun role n => ?_) (fun role n x hx => (declared_at_name hx).2) role n
  rcases h : declaredAround role n ++ declaredWithin role n with _ | ⟨x, xs⟩
  · exact List.nodup_nil
  · have hx : x ∈ declaredAround role n ++ declaredWithin role n := h ▸ List.mem_cons_self
    rw [← h, (declared_at_name hx).1]
    exact List.nodup_singleton _

end FlowLint.Scoping
