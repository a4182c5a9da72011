import FlowLint.Proofs.Scope

/-!
# Variables that are read

Every declarator adds its variable to the innermost scope around it, whatever the word is in front
of the declaration. So a `var` in a block belongs to the block, and not to the function around it.

* `Read` is a variable that `var` declares, and a place of the same function where its name is read.
* `read_not_reported`: the variable is not reported if that place lies in the scope that holds it.
* `read_outside_block`: it may be reported otherwise.
-/

namespace FlowLint.Scoping

open Script

variable {e : Exemption} {root : Node} {s t : Site}

/-! ## Paths lead to one node -/

theorem look_eq_of_step_eq {looks : List Look} (hd : looks.Pairwise (·.step ≠ ·.step))
    {l l' : Look} (hl : l ∈ looks) (hl' : l' ∈ looks) (h : l.step = l'.step) : l = l' :=
  List.inj_on_of_nodup_map (List.pairwise_map.mpr hd) hl hl' h

/-- There is one node at a path. -/
theorem Sees.node_unique {role role₁ role₂ : Role} {n m₁ m₂ : Node} {path : Path}
    {scopes₁ scopes₂ : List Path} (h₁ : Sees role n path scopes₁ role₁ m₁)
    (h₂ : Sees role n path scopes₂ role₂ m₂) : m₁ = m₂ := by
  induction h₁ generalizing scopes₂ with
  | here =>
    cases h₂
    rfl
  | @outside role _ n _ path _ l hl _ ih =>
    generalize hp : l.step :: path = p at h₂
    cases h₂ with
    | here => cases hp
    | @outside _ _ _ _ _ _ l' hl' h₂ =>
      obtain ⟨hstep, rfl⟩ := List.cons.inj hp
      obtain rfl := look_eq_of_step_eq (distinct_looksOutside role n) hl hl' hstep
      exact ih h₂
    | inside hl' _ => exact absurd (List.cons.inj hp).1 (step_ne_of_outside_of_inside hl hl')
  | @inside role _ n _ path _ l hl _ ih =>
    generalize hp : l.step :: path = p at h₂
    cases h₂ with
    | here => cases hp
    | outside hl' _ =>
      exact absurd (List.cons.inj hp).1.symm (step_ne_of_outside_of_inside hl' hl)
    | @inside _ _ _ _ _ _ l' hl' h₂ =>
      obtain ⟨hstep, rfl⟩ := List.cons.inj hp
      obtain rfl := look_eq_of_step_eq (distinct_looksInside role n) hl hl' hstep
      exact ih h₂

/-- A variable is among the declarations. -/
theorem Variable.mem_declarations {init : Option Node} (h : Variable root s init) :
    ∃ scopes f, ⟨s.path, s.scope :: scopes, ⟨s.name, .plain, s.range, f⟩⟩ ∈
      declarations .use root := by
  obtain ⟨scopes, hd⟩ := declares_iff.mp (declares_plain_iff.mpr ⟨init, h, rfl⟩)
  exact ⟨scopes, _, hd⟩

/-- The identifier that declares a variable tells its scope and its name. -/
theorem Variable.eq_of_path_eq {init init' : Option Node} (h : Variable root s init)
    (h' : Variable root t init') (hpath : s.path = t.path) :
    s.scope = t.scope ∧ s.name = t.name := by
  obtain ⟨scopes, f, hs⟩ := h.mem_declarations
  obtain ⟨scopes', f', ht⟩ := h'.mem_declarations
  have hmark := List.inj_on_of_nodup_map (nodup_declarations .use root) hs ht hpath
  simp only [Mark.mk.injEq, List.cons.injEq, Binding.mk.injEq] at hmark
  exact ⟨hmark.2.1.1, hmark.2.2.1⟩

/-! ## What is reported -/

/-- What is reported, site by site, does not include the variable of a site. -/
def NotReported (e : Exemption) (root : Node) (s : Site) : Prop :=
  ∃ sites : List Site, (sites.map Site.path).Nodup ∧
    (∀ t, t ∈ sites ↔ UnusedVariable e root t) ∧
    (unusedBindings e root).Perm (sites.map Site.binding) ∧ ∀ t ∈ sites, t.path ≠ s.path

/-- The sites of what is reported. -/
theorem exists_reportedSites (e : Exemption) (root : Node) :
    ∃ sites : List Site, (sites.map Site.path).Nodup ∧
      (∀ t, t ∈ sites ↔ UnusedVariable e root t) ∧
      (unusedBindings e root).Perm (sites.map Site.binding) := by
  let marks := (declarations .use root).filter
    (reported e (declarations .use root) (references .use root))
  have hbinding : ∀ d ∈ marks, d.item = (Site.binding ∘ Mark.site) d := by
    rintro ⟨path, scopes, name, kind, range, f⟩ hd
    obtain ⟨scope, -, -, hcovers⟩ := reported_iff.mp (List.mem_filter.mp hd).2
    obtain ⟨⟨rfl, rfl⟩, -⟩ := not_covers_iff.mp hcovers
    rfl
  refine ⟨marks.map Mark.site, ?_, fun t => mem_reported_iff, ?_⟩
  · rw [List.map_map]
    exact (nodup_declarations .use root).sublist (List.filter_sublist.map _)
  · rw [List.map_map, ← List.map_congr_left hbinding]
    exact (List.mergeSort_perm _ _).trans (summary e .use root).unused

/-- A variable to whose scope a reference resolves is not reported. -/
theorem notReported_of_resolves {init : Option Node} {scopes : List Path}
    (hvariable : Variable root s init) (hrefers : Refers root scopes s.name)
    (hresolves : Resolves root scopes s.name s.scope) : NotReported e root s := by
  obtain ⟨sites, hnodup, hsites, hperm⟩ := exists_reportedSites e root
  refine ⟨sites, hnodup, hsites, hperm, fun t ht hpath => ?_⟩
  have hunused := (hsites t).mp ht
  obtain ⟨init', hvariable', -⟩ := hunused.bound
  obtain ⟨hscope, hname⟩ := hvariable'.eq_of_path_eq hvariable hpath
  exact hunused.notReferred scopes (hname ▸ hrefers) (hname ▸ hscope ▸ hresolves)

/-! ## Functions and their blocks -/

/-- The scope at a path is that of a function or a program. -/
def OpensFunction (root : Node) (scope : Path) : Prop :=
  ∃ scopes role n, Sees .use root scope scopes role n ∧
    (n.isFunction = true ∨ ∃ body range, n = .program body range)

/-- Of the scopes around a place, `blocks` are those inside of the function around it, which opens
the scope `function`. -/
structure InFunction (root : Node) (scopes blocks : List Path) (function : Path) : Prop where
  around : ∃ outer, scopes = blocks ++ function :: outer
  opened : OpensFunction root function
  nested : ∀ b ∈ blocks, ¬ OpensFunction root b

/-- A declaration with the word `var` declares the variable, with certain scopes around it. -/
def DeclaredByVar (root : Node) (s : Site) (scopes : List Path) : Prop :=
  ∃ path i rest role declarators range target init r,
    Sees .use root path scopes role (.declaration "var" declarators range) ∧
      scopes.head? = some s.scope ∧ declarators[i]? = some (.declarator (some target) init r) ∧
        Binds target rest s.name s.range ∧ s.path = path ++ (.child, i) :: (.target, 0) :: rest

theorem DeclaredByVar.variable {scopes : List Path} (h : DeclaredByVar root s scopes) :
    ∃ init, Variable root s init := by
  obtain ⟨path, i, rest, role, declarators, range, target, init, r, hsees, hhead, hi, hbinds,
    hpath⟩ := h
  obtain ⟨outer, rfl⟩ := List.head?_eq_some_iff.mp hhead
  have hl : ⟨(.child, i), .use, .declarator (some target) init r⟩ ∈
      looksOutside role (.declaration "var" declarators range) := by
    cases role <;> exact mem_looksAt.mpr ⟨rfl, rfl, hi⟩
  have hdeclarator := hsees.trans (.outside hl .here)
  exact ⟨init, _, rest, outer, .use, target, r, hdeclarator, hbinds, by simp [hpath]⟩

/-- A function declares a variable with `var`, and reads its name at a place that is in no function
inside of it. No block or catch clause around that place declares the name, except for the one that
holds the variable. The blocks and catch clauses around the place have the scopes `blocks`. -/
structure Read (root : Node) (s : Site) (blocks : List Path) (function : Path) : Prop where
  declared : ∃ scopes inner, DeclaredByVar root s scopes ∧ InFunction root scopes inner function
  read : ∃ scopes, Refers root scopes s.name ∧ InFunction root scopes blocks function
  notHidden : ∀ b ∈ blocks, DeclaresName root b s.name → b = s.scope

theorem Variable.declaresName {init : Option Node} (h : Variable root s init) :
    DeclaresName root s.scope s.name :=
  ⟨s.path, _, declares_plain_iff.mpr ⟨init, h, rfl⟩, rfl⟩

/-- Where the scope of the variable is around the place that reads it, the name resolves to it. -/
theorem Read.resolves {blocks : List Path} {function : Path} (h : Read root s blocks function)
    (hinside : s.scope ∈ function :: blocks) :
    ∃ scopes, Refers root scopes s.name ∧ Resolves root scopes s.name s.scope := by
  obtain ⟨_, _, hdeclared, -⟩ := h.declared
  obtain ⟨init, hvariable⟩ := hdeclared.variable
  obtain ⟨scopes, hrefers, ⟨outer, hscopes⟩, -, -⟩ := h.read
  refine ⟨scopes, hrefers, hvariable.declaresName, ?_⟩
  by_cases hblock : s.scope ∈ blocks
  · obtain ⟨inner, rest, hblocks, hfirst⟩ := List.eq_append_cons_of_mem hblock
    refine ⟨inner, rest ++ function :: outer, by simp [hscopes, hblocks], fun b hb hdeclares => ?_⟩
    have hmem : b ∈ blocks := hblocks ▸ List.mem_append_left _ hb
    exact hfirst (h.notHidden b hmem hdeclares ▸ hb)
  · have hfunction : s.scope = function := (List.mem_cons.mp hinside).resolve_right hblock
    refine ⟨blocks, outer, by rw [hscopes, hfunction], fun b hb hdeclares => ?_⟩
    exact hblock (h.notHidden b hb hdeclares ▸ hb)

/-- **Reads.** A variable that is read is not reported, if the place that reads it lies in the scope
that holds the variable: in the function, or in the block or catch clause around the `var`. -/
theorem read_not_reported {blocks : List Path} {function : Path}
    (h : Read root s blocks function) (hinside : s.scope ∈ function :: blocks) :
    NotReported e root s := by
  obtain ⟨_, _, hdeclared, -⟩ := h.declared
  obtain ⟨init, hvariable⟩ := hdeclared.variable
  obtain ⟨scopes, hrefers, hresolves⟩ := h.resolves hinside
  exact notReported_of_resolves hvariable hrefers hresolves

/-! ## Inside and outside of a block -/

/-- `var x = 1;` -/
def oneVar : Node :=
  .declaration "var"
    [.declarator (some (.identifier "x" (.ofLines 1 7 1 8)))
      (some (.literal (.number (some (.finite 1))) "1" (.ofLines 1 11 1 12))) (.ofLines 1 7 1 12)]
    (.ofLines 1 3 1 13)

/-- `node.send(x);` -/
def sendsVar : Node :=
  .other "expression_statement"
    [.call
      (some (.member (some (.identifier "node" (.ofLines 2 1 2 5)))
        (some (.propertyName "send" (.ofLines 2 6 2 10))) false (.ofLines 2 1 2 10)))
      [.identifier "x" (.ofLines 2 11 2 12)] false (.ofLines 2 1 2 13)]
    (.ofLines 2 1 2 14)

/-- A block that declares a variable and also reads it. -/
def readInBlock : Node :=
  .program [.block [oneVar, sendsVar] (.ofLines 1 1 3 2)] (.ofLines 1 1 3 2)

/-- A block that declares a variable, which is read after the block. -/
def readAfterBlock : Node :=
  .program [.block [oneVar] (.ofLines 1 1 1 15), sendsVar] (.ofLines 1 1 2 14)

/-- The variable in the block of either program. -/
def varSite : Site where
  path := [(.statement, 0), (.statement, 0), (.child, 0), (.target, 0)]
  scope := [(.statement, 0)]
  name := "x"
  range := .ofLines 1 7 1 8

theorem sees_statement {n k m : Node} {statements : List Node} {i : Nat} {path : Path}
    {scopes : List Path} {role : Role}
    (hlooks : looksInside .use n = looksAt .statement .use statements)
    (hi : statements[i]? = some k) (h : Sees .use k path scopes role m) :
    Sees .use n ((.statement, i) :: path) (scopes.map ((.statement, i) :: ·) ++ [[]]) role m := by
  have hl : ⟨(.statement, i), .use, k⟩ ∈ looksInside .use n :=
    hlooks ▸ mem_looksAt.mpr ⟨rfl, rfl, hi⟩
  exact .inside hl h

theorem sees_sendsVar :
    Sees .use sendsVar [(.child, 0), (.child, 1)] [] .use (.identifier "x" (.ofLines 2 11 2 12)) :=
  .outside (l := ⟨(.child, 0), .use, _⟩) (.head _) (.outside (l := ⟨(.child, 1), .use, _⟩)
    (.tail _ (.head _)) .here)

theorem opensFunction_program {statements : List Node} {range : SourceRange} :
    OpensFunction (.program statements range) [] :=
  ⟨[], .use, _, .here, .inr ⟨statements, range, rfl⟩⟩

theorem not_opensFunction_block {statements : List Node} {range : SourceRange} {path : Path}
    {scopes : List Path} {role : Role}
    (h : Sees .use root path scopes role (.block statements range)) :
    ¬ OpensFunction root path := by
  rintro ⟨scopes', role', n, hn, hopens⟩
  obtain rfl := h.node_unique hn
  rcases hopens with hopens | ⟨_, _, hopens⟩ <;> cases hopens

/-- The first statement of a program is a block that starts with `var x = 1;`. -/
theorem declared_varSite (inside after : List Node) (r range : SourceRange) :
    let root : Node := .program (.block (oneVar :: inside) r :: after) range
    InFunction root [[(.statement, 0)], []] [[(.statement, 0)]] [] ∧
      DeclaredByVar root varSite [[(.statement, 0)], []] := by
  intro root
  have hblock : Sees .use root [(.statement, 0)] [[]] .use (.block (oneVar :: inside) r) :=
    sees_statement rfl rfl .here
  have hvar : Sees .use root [(.statement, 0), (.statement, 0)] [[(.statement, 0)], []] .use
      oneVar :=
    sees_statement rfl rfl (sees_statement rfl rfl .here)
  refine ⟨⟨⟨[], rfl⟩, opensFunction_program, ?_⟩, ?_⟩
  · intro b hb
    rw [List.mem_singleton.mp hb]
    exact not_opensFunction_block hblock
  · exact ⟨_, 0, [], .use, _, _, _, _, _, hvar, rfl, rfl, .identifier, rfl⟩

/-- In the block that holds a variable, reading it counts. -/
theorem read_in_block : Read readInBlock varSite [[(.statement, 0)]] [] ∧
    varSite.scope ∈ [] :: [[(.statement, 0)]] ∧ NotReported {} readInBlock varSite := by
  obtain ⟨hfunction, hdeclared⟩ :=
    declared_varSite [sendsVar] [] (.ofLines 1 1 3 2) (.ofLines 1 1 3 2)
  have hsees := sees_statement (n := readInBlock) (i := 0) rfl rfl
    (sees_statement (i := 1) rfl rfl sees_sendsVar)
  have hread : Read readInBlock varSite [[(.statement, 0)]] [] :=
    { declared := ⟨_, _, hdeclared, hfunction⟩
      read := ⟨_, ⟨_, .use, _, hsees, nofun⟩, hfunction⟩
      notHidden := fun b hb _ => List.mem_singleton.mp hb }
  have hinside : varSite.scope ∈ [] :: [[(.statement, 0)]] := .tail _ (.head _)
  exact ⟨hread, hinside, read_not_reported hread hinside⟩

/-- After the block that holds a variable, reading it does not count. -/
theorem unusedVariable_readAfterBlock : UnusedVariable {} readAfterBlock varSite := by
  have hreported : ((declarations .use readAfterBlock).filter
      (reported {} (declarations .use readAfterBlock) (references .use readAfterBlock))).map
        (fun d => (d.path, d.scopes, d.item)) =
      [(varSite.path, [varSite.scope, []], varSite.binding)] := by decide +kernel
  refine mem_reported_iff.mp (List.mem_map.mpr ?_)
  obtain ⟨d, hd, hfields⟩ := List.mem_map.mp (hreported ▸ List.mem_singleton_self _)
  obtain ⟨path, scopes, item⟩ := d
  cases hfields
  exact ⟨_, hd, rfl⟩

/-- Reading a variable anywhere in the function is not enough. -/
theorem read_outside_block : ¬ ∀ (e : Exemption) (root : Node) (s : Site) (blocks : List Path)
    (function : Path), Read root s blocks function → NotReported e root s := by
  intro h
  obtain ⟨hfunction, hdeclared⟩ :=
    declared_varSite [] [sendsVar] (.ofLines 1 1 1 15) (.ofLines 1 1 2 14)
  have hsees := sees_statement (n := readAfterBlock) (i := 1) rfl rfl sees_sendsVar
  have hread : Read readAfterBlock varSite [] [] :=
    { declared := ⟨_, _, hdeclared, hfunction⟩
      read := ⟨_, ⟨_, .use, _, hsees, nofun⟩, ⟨[], rfl⟩, opensFunction_program, nofun⟩
      notHidden := nofun }
  obtain ⟨sites, -, hsites, -, hother⟩ := h {} readAfterBlock varSite [] [] hread
  exact hother varSite ((hsites varSite).mpr unusedVariable_readAfterBlock) rfl

end FlowLint.Scoping
