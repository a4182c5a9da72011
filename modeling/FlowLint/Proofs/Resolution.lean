import FlowLint.Scope

/-!
# Which scope a name refers to

The rules of scoping, read from the root of a tree inward and without any of the lists that the
analysis in `FlowLint/Scope.lean` passes outward.

* `looksOutside` and `looksInside` list what is looked at below a node: in the scope that the
  node stands in, and in the scope that it opens.
* `Sees` follows them down a tree. It gives the path to a node and the paths of all scopes
  around it, innermost first.
* `Declares` says which scope holds a declaration, and `Refers` which identifiers are references.
* `Resolves` looks a name up: the innermost scope around it that declares it anywhere.
* `Variable` is a name that a declarator binds, and `UnusedVariable` one to whose scope no
  reference resolves.

A binding of kind `plain` is the same as a `Variable` (`declares_plain_iff`).
-/

namespace FlowLint.Scoping

open Script

/-! ## Paths -/

/-- What a node directly below another one is to it. -/
inductive Part where
  | statement | name | parameter | body | heritage | member | target | value | element | key
  | object | property | child
  deriving Repr, DecidableEq

/-- One step down a tree: what the lower node is to the upper one, and its number among those. -/
abbrev Step := Part × Nat

/-- The way from a node to one below it. Equal nodes at different places have different paths. -/
abbrev Path := List Step

/-- A node to look at next: the step to it, the role in which it is looked at, and the node. -/
structure Look where
  step : Step
  role : Role
  node : Node

/-- The nodes of one part, all looked at in the same role. -/
def looksAt (part : Part) (role : Role) (nodes : List Node) : List Look :=
  nodes.zipIdx.map fun (n, i) => ⟨(part, i), role, n⟩

/-- What is looked at below a node in the scope that the node itself stands in. The name of a
function that is not a method, the name of a class, a plain key of a pattern and the property
after a dot are only names: they are not looked at. -/
def looksOutside : Role → Node → List Look
  | .bind kind f, .pattern _ elements _ => looksAt .element (.bind kind f) elements
  | .bind kind f, .patternProperty key value _ =>
    (match key with
      | some (.propertyName ..) | some (.identifier ..) => []
      | _ => looksAt .key .use key.toList)
      ++ looksAt .value (.bind kind f) value.toList
  | .bind kind f, .assignmentPattern target fallback _ =>
    looksAt .target (.bind kind f) target.toList ++ looksAt .value .use fallback.toList
  | .body, .block statements _ => looksAt .statement .use statements
  | _, .program .. | _, .block .. | _, .catchClause .. => []
  | _, .function .method name _ _ _ _ => looksAt .name .use name.toList
  | _, .function .. => []
  | _, .classNode _ _ heritage members _ =>
    looksAt .heritage .use heritage.toList ++ looksAt .member .use members
  | _, .declarator target init _ =>
    looksAt .target (.bind .plain (init.any Node.isFunction)) target.toList
      ++ looksAt .value .use init.toList
  | _, .member object property true _ =>
    looksAt .object .use object.toList ++ looksAt .property .use property.toList
  | _, .member object _ false _ => looksAt .object .use object.toList
  | _, n => looksAt .child .use n.children

/-- What is looked at below a node in the scope that the node opens. Programs, functions and
catch clauses open one, and so do blocks, unless they are the body of one of the latter two. -/
def looksInside : Role → Node → List Look
  | .body, .block .. => []
  | _, .program statements _ | _, .block statements _ => looksAt .statement .use statements
  | _, .function _ _ params body _ _ =>
    looksAt .parameter (.bind .parameter false) params ++ looksAt .body .body body.toList
  | _, .catchClause param body _ =>
    looksAt .parameter (.bind .catchParameter false) param.toList
      ++ looksAt .body .body body.toList
  | _, _ => []

/-- Looking at `n` in a role, one comes along `path` to `m` and looks at it in `role'`. On the way
the scopes at the paths `scopes` were opened, innermost first. -/
inductive Sees : Role → Node → Path → List Path → Role → Node → Prop
  | here {role : Role} {n : Node} : Sees role n [] [] role n
  | outside {role role' : Role} {n m : Node} {path : Path} {scopes : List Path} {l : Look}
      (hl : l ∈ looksOutside role n) (h : Sees l.role l.node path scopes role' m) :
      Sees role n (l.step :: path) (scopes.map (l.step :: ·)) role' m
  | inside {role role' : Role} {n m : Node} {path : Path} {scopes : List Path} {l : Look}
      (hl : l ∈ looksInside role n) (h : Sees l.role l.node path scopes role' m) :
      Sees role n (l.step :: path) (scopes.map (l.step :: ·) ++ [[]]) role' m

/-! ## Declarations and references -/

/-- In the tree below `root` the identifier at `site` declares a binding in the scope at `scope`. -/
inductive Declares (root : Node) : (site scope : Path) → Binding → Prop
  /-- A name in a target. -/
  | target {path scope : Path} {scopes : List Path} {kind : BindingKind} {f : Bool}
      {name : String} {range : SourceRange}
      (h : Sees .use root path (scope :: scopes) (.bind kind f) (.identifier name range)) :
      Declares root path scope ⟨name, kind, range, f⟩
  /-- The name of a function that is declared, in the scope around the function. -/
  | function {path scope : Path} {scopes : List Path} {role : Role} {name : String}
      {range r : SourceRange} {params : List Node} {body : Option Node} {synthetic : Bool}
      (h : Sees .use root path (scope :: scopes) role
        (.function .declaration (some (.identifier name range)) params body synthetic r)) :
      Declares root (path ++ [(.name, 0)]) scope ⟨name, .function, range, false⟩
  /-- The name of a function that is part of an expression, in the scope of the function. -/
  | ownName {path : Path} {scopes : List Path} {role : Role} {name : String}
      {range r : SourceRange} {params : List Node} {body : Option Node} {synthetic : Bool}
      (h : Sees .use root path scopes role
        (.function .expression (some (.identifier name range)) params body synthetic r)) :
      Declares root (path ++ [(.name, 0)]) path ⟨name, .function, range, false⟩
  /-- The name of a class that is declared. -/
  | classNode {path scope : Path} {scopes : List Path} {role : Role} {name : String}
      {range r : SourceRange} {heritage : Option Node} {members : List Node}
      (h : Sees .use root path (scope :: scopes) role
        (.classNode (some (.identifier name range)) true heritage members r)) :
      Declares root (path ++ [(.name, 0)]) scope ⟨name, .classDefinition, range, false⟩

/-- A scope declares a name anywhere: as a variable, parameter, catch parameter, function or
class, before or after any use. -/
def DeclaresName (root : Node) (scope : Path) (name : String) : Prop :=
  ∃ site b, Declares root site scope b ∧ b.name = name

/-- An identifier with the scopes around it is a reference: it is not part of a target. -/
def Refers (root : Node) (scopes : List Path) (name : String) : Prop :=
  ∃ path role range, Sees .use root path scopes role (.identifier name range) ∧
    ∀ kind f, role ≠ .bind kind f

/-- Among the scopes around a name, innermost first, `scope` is the first that declares it. -/
def Resolves (root : Node) (scopes : List Path) (name : String) (scope : Path) : Prop :=
  DeclaresName root scope name ∧
    ∃ inner outer, scopes = inner ++ scope :: outer ∧ ∀ t ∈ inner, ¬ DeclaresName root t name

/-! ## Variables -/

/-- A target binds the name of the identifier at `path`. -/
inductive Binds : Node → Path → String → SourceRange → Prop
  | identifier {name : String} {range : SourceRange} :
      Binds (.identifier name range) [] name range
  | pattern {kind : PatternKind} {elements : List Node} {r : SourceRange} {i : Nat} {e : Node}
      {path : Path} {name : String} {range : SourceRange}
      (hi : elements[i]? = some e) (h : Binds e path name range) :
      Binds (.pattern kind elements r) ((.element, i) :: path) name range
  | patternProperty {key : Option Node} {value : Node} {r : SourceRange} {path : Path}
      {name : String} {range : SourceRange} (h : Binds value path name range) :
      Binds (.patternProperty key (some value) r) ((.value, 0) :: path) name range
  | assignmentPattern {target : Node} {fallback : Option Node} {r : SourceRange} {path : Path}
      {name : String} {range : SourceRange} (h : Binds target path name range) :
      Binds (.assignmentPattern (some target) fallback r) ((.target, 0) :: path) name range

/-- Where a variable is declared. -/
structure Site where
  /-- The identifier that declares it. -/
  path : Path
  /-- The scope that holds it. -/
  scope : Path
  name : String
  range : SourceRange

/-- The binding of a variable that does not hold a function. -/
def Site.binding (s : Site) : Binding :=
  { name := s.name, kind := .plain, range := s.range }

/-- A declarator with the initial value `init` binds the variable. -/
def Variable (root : Node) (s : Site) (init : Option Node) : Prop :=
  ∃ path rest scopes role target r,
    Sees .use root path (s.scope :: scopes) role (.declarator (some target) init r) ∧
    Binds target rest s.name s.range ∧ s.path = path ++ (.target, 0) :: rest

/-- A variable that does not start out as a function, is not exempt, and to whose scope no
reference of its name resolves. -/
structure UnusedVariable (e : Exemption) (root : Node) (s : Site) : Prop where
  bound : ∃ init, Variable root s init ∧ ∀ n, init = some n → n.isFunction = false
  notNamed : s.name ∉ e.names
  notMarked : e.mark = "" ∨ ¬ e.mark.toList <+: s.name.toList
  notReferred : ∀ scopes, Refers root scopes s.name → ¬ Resolves root scopes s.name s.scope

/-! ## What is looked at -/

theorem mem_looksAt {part : Part} {role : Role} {nodes : List Node} {l : Look} :
    l ∈ looksAt part role nodes ↔
      l.step.1 = part ∧ l.role = role ∧ nodes[l.step.2]? = some l.node := by
  obtain ⟨⟨p, i⟩, r, n⟩ := l
  simp only [looksAt, List.mem_map, Prod.exists, List.mk_mem_zipIdx_iff_getElem?, Look.mk.injEq,
    Prod.mk.injEq]
  constructor
  · rintro ⟨n', i', h, ⟨rfl, rfl⟩, rfl, rfl⟩
    exact ⟨rfl, rfl, h⟩
  · rintro ⟨rfl, rfl, h⟩
    exact ⟨n, i, h, ⟨rfl, rfl⟩, rfl, rfl⟩

theorem mem_looksAt_toList {part : Part} {role : Role} {node : Option Node} {l : Look} :
    l ∈ looksAt part role node.toList ↔
      l.step = (part, 0) ∧ l.role = role ∧ node = some l.node := by
  rw [mem_looksAt]
  obtain ⟨⟨p, i⟩, r, n⟩ := l
  cases node <;> cases i <;> simp

/-- Ways down a tree can be put together. -/
theorem Sees.trans {r₁ r₂ r₃ : Role} {n₁ n₂ n₃ : Node} {p q : Path} {s t : List Path}
    (h : Sees r₁ n₁ p s r₂ n₂) (h' : Sees r₂ n₂ q t r₃ n₃) :
    Sees r₁ n₁ (p ++ q) (t.map (p ++ ·) ++ s) r₃ n₃ := by
  induction h with
  | here => simpa using h'
  | outside hl _ ih => simpa [Function.comp_def] using Sees.outside hl (ih h')
  | inside hl _ ih => simpa [Function.comp_def] using Sees.inside hl (ih h')

/-! ## Variables are the plain bindings -/

theorem Binds.sees {target : Node} {path : Path} {name : String} {range : SourceRange}
    (h : Binds target path name range) (kind : BindingKind) (f : Bool) :
    Sees (.bind kind f) target path [] (.bind kind f) (.identifier name range) := by
  induction h with
  | identifier => exact .here
  | @pattern pk elements r i e _ _ _ hi _ ih =>
    have hl : ⟨(.element, i), .bind kind f, e⟩ ∈
        looksOutside (.bind kind f) (.pattern pk elements r) :=
      mem_looksAt.mpr ⟨rfl, rfl, hi⟩
    exact .outside hl ih
  | @patternProperty key value r _ _ _ _ ih =>
    have hl : ⟨(.value, 0), .bind kind f, value⟩ ∈
        looksOutside (.bind kind f) (.patternProperty key (some value) r) :=
      List.mem_append_right _ (mem_looksAt_toList.mpr ⟨rfl, rfl, rfl⟩)
    exact .outside hl ih
  | @assignmentPattern target fallback r _ _ _ _ ih =>
    have hl : ⟨(.target, 0), .bind kind f, target⟩ ∈
        looksOutside (.bind kind f) (.assignmentPattern (some target) fallback r) :=
      List.mem_append_left _ (mem_looksAt_toList.mpr ⟨rfl, rfl, rfl⟩)
    exact .outside hl ih

/-- What is looked at as a target of variables is part of such a target, or it is the target of a
declarator. -/
theorem plain_of_mem_looksOutside {role : Role} {n : Node} {l : Look} {f : Bool}
    (hl : l ∈ looksOutside role n) (hr : l.role = .bind .plain f) :
    (role = .bind .plain f ∧ ∀ path name range, Binds l.node path name range →
      Binds n (l.step :: path) name range) ∨
    ∃ target init r, n = .declarator (some target) init r ∧ init.any Node.isFunction = f ∧
      l.step = (.target, 0) ∧ l.node = target := by
  cases n with
  | declarator target init r =>
    rw [looksOutside] at hl
    rcases List.mem_append.mp hl with h | h
    · obtain ⟨hs, hr', rfl⟩ := mem_looksAt_toList.mp h
      rw [hr] at hr'
      cases hr'
      exact .inr ⟨l.node, init, r, rfl, rfl, hs, rfl⟩
    · cases hr.symm.trans (mem_looksAt_toList.mp h).2.1
  | pattern kind elements r =>
    cases role with
    | bind k f' =>
      obtain ⟨hs, hr', hn⟩ := mem_looksAt.mp hl
      refine .inl ⟨hr' ▸ hr, fun path name range hb => ?_⟩
      rw [show l.step = (.element, l.step.2) from Prod.ext hs rfl]
      exact .pattern hn hb
    | _ => cases hr.symm.trans (mem_looksAt.mp hl).2.1
  | patternProperty key value r =>
    cases role with
    | bind k f' =>
      rcases List.mem_append.mp hl with h | h
      · grind [mem_looksAt]
      · obtain ⟨hs, hr', rfl⟩ := mem_looksAt_toList.mp h
        exact .inl ⟨hr' ▸ hr, fun path name range hb => hs ▸ .patternProperty hb⟩
    | _ => cases hr.symm.trans (mem_looksAt.mp hl).2.1
  | assignmentPattern target fallback r =>
    cases role with
    | bind k f' =>
      rcases List.mem_append.mp hl with h | h
      · obtain ⟨hs, hr', rfl⟩ := mem_looksAt_toList.mp h
        exact .inl ⟨hr' ▸ hr, fun path name range hb => hs ▸ .assignmentPattern hb⟩
      · cases hr.symm.trans (mem_looksAt_toList.mp h).2.1
    | _ => cases hr.symm.trans (mem_looksAt.mp hl).2.1
  | function kind name params body synthetic r =>
    cases kind <;> grind [mem_looksAt, looksOutside]
  | member object property computed r => cases computed <;> grind [mem_looksAt, looksOutside]
  | _ => cases role <;> grind [mem_looksAt, looksOutside]

theorem not_plain_of_mem_looksInside {role : Role} {n : Node} {l : Look} {f : Bool}
    (hl : l ∈ looksInside role n) : l.role ≠ .bind .plain f := by
  revert hl
  fun_cases looksInside role n
  all_goals grind [mem_looksAt]

/-- An identifier that is looked at as a target of variables was reached through targets only, or
through a declarator. -/
theorem Sees.of_plain {role role' : Role} {n m : Node} {site : Path} {scopes : List Path}
    {f : Bool} {name : String} {range : SourceRange} (h : Sees role n site scopes role' m)
    (hr : role' = .bind .plain f) (hm : m = .identifier name range) :
    (role = .bind .plain f ∧ scopes = [] ∧ Binds n site name range) ∨
    ∃ path rest role₁ target init r,
      Sees role n path scopes role₁ (.declarator (some target) init r) ∧
      init.any Node.isFunction = f ∧ Binds target rest name range ∧
      site = path ++ (.target, 0) :: rest := by
  induction h with
  | here =>
    subst hr hm
    exact .inl ⟨rfl, rfl, .identifier⟩
  | @outside role role' n m path scopes l hl h ih =>
    rcases ih hr hm with ⟨hl', rfl, hb⟩ | ⟨path', rest, role₁, target, init, r, hs, hf, hb, rfl⟩
    · -- The step down led into a target: either it was in one already, or this is where it starts.
      rcases plain_of_mem_looksOutside hl hl' with ⟨rfl, hn⟩ | ⟨target, init, r, rfl, hf, hs, rfl⟩
      · exact .inl ⟨rfl, rfl, hn _ _ _ hb⟩
      · exact .inr ⟨[], path, role, l.node, init, r, .here, hf, hb, by simp [hs]⟩
    · exact .inr ⟨_, rest, role₁, target, init, r, .outside hl hs, hf, hb, rfl⟩
  | @inside role role' n m path scopes l hl h ih =>
    rcases ih hr hm with ⟨hl', -⟩ | ⟨path', rest, role₁, target, init, r, hs, hf, hb, rfl⟩
    · exact absurd hl' (not_plain_of_mem_looksInside hl)
    · exact .inr ⟨_, rest, role₁, target, init, r, .inside hl hs, hf, hb, rfl⟩

/-- **Variables.** The bindings of kind `plain` are the names that declarators bind, directly or
through patterns; the flag tells whether the initial value is a function. -/
theorem declares_plain_iff {root : Node} {s : Site} {f : Bool} :
    Declares root s.path s.scope ⟨s.name, .plain, s.range, f⟩ ↔
      ∃ init, Variable root s init ∧ init.any Node.isFunction = f := by
  constructor
  · intro h
    generalize hb : (⟨s.name, .plain, s.range, f⟩ : Binding) = b at h
    generalize hp : s.path = site at h
    cases h with
    | target h =>
      cases hb
      rcases h.of_plain rfl rfl with ⟨hr, -⟩ | ⟨path, rest, role, target, init, r, hs, hf, hb, he⟩
      · cases hr
      · exact ⟨init, ⟨path, rest, _, role, target, r, hs, hb, hp.trans he⟩, hf⟩
    | _ => cases hb
  · rintro ⟨init, ⟨path, rest, scopes, role, target, r, hs, hb, he⟩, rfl⟩
    have hl : ⟨(.target, 0), .bind .plain (init.any Node.isFunction), target⟩ ∈
        looksOutside role (.declarator (some target) init r) := by
      rw [looksOutside]
      exact List.mem_append_left _ (mem_looksAt_toList.mpr ⟨rfl, rfl, rfl⟩)
    have h := hs.trans (.outside hl (hb.sees .plain _))
    rw [he]
    exact .target h

end FlowLint.Scoping
