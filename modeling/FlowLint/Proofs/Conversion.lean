import FlowLint.Proofs.Walk
import FlowLint.Script.Convert

/-!
# What conversion does with places

Conversion builds a tree of typed nodes from a tree of grammar nodes. Where a typed node stands
comes from the span of a grammar node, and from nothing else.

* `convert_cases` says of all constructs at once what conversion makes of one: what it makes of the
  only part, in case of parentheses, and otherwise a node that stands where the construct stands
  and has nodes below it that were made of its parts.
* `placed_convert`: every node of a converted tree stands where some grammar node stands, and
  none is synthetic unless a wrapper is looked for.
* `convert_mapSpan`: if the spans of a construct change and the layout with them, so that each
  span still stands at the same place, the tree is the same.
-/

namespace FlowLint.Script

namespace Concrete

/-! ## Grammar nodes below a grammar node -/

/-- To show something of every grammar node, show it of a node from its parts. -/
theorem parts_induction {motive : Concrete → Prop}
    (step : ∀ kind role span text cs, (∀ c ∈ cs, motive c) →
      motive (.node kind role span text cs)) (c : Concrete) : motive c := by
  induction hk : sizeOf c using Nat.strongRecOn generalizing c with
  | _ k ih =>
    obtain ⟨kind, role, span, text, cs⟩ := c
    refine step kind role span text cs fun d hd => ?_
    have hsize := List.sizeOf_lt_of_mem hd
    refine ih _ ?_ d rfl
    rw [← hk, node.sizeOf_spec]
    omega

mutual

/-- The spans of a grammar node and of all below it. -/
def spans : Concrete → List Span
  | node _ _ s _ cs => s :: spansAll cs

/-- `spans` for several grammar nodes. -/
def spansAll : List Concrete → List Span
  | [] => []
  | c :: cs => spans c ++ spansAll cs

end

theorem mem_spansAll {s : Span} {cs : List Concrete} :
    s ∈ spansAll cs ↔ ∃ c ∈ cs, s ∈ c.spans := by
  induction cs with
  | nil => simp [spansAll]
  | cons c cs ih => rw [spansAll, List.mem_append, ih, List.exists_mem_cons_iff]

mutual

/-- A grammar node with all spans changed. -/
def mapSpan (f : Span → Span) : Concrete → Concrete
  | node k r s t cs => node k r (f s) t (mapSpanAll f cs)

/-- `mapSpan` for several grammar nodes. -/
def mapSpanAll (f : Span → Span) : List Concrete → List Concrete
  | [] => []
  | c :: cs => mapSpan f c :: mapSpanAll f cs

end

theorem mapSpanAll_eq (f : Span → Span) (cs : List Concrete) :
    mapSpanAll f cs = cs.map (mapSpan f) := by
  induction cs with
  | nil => rw [mapSpanAll, List.map_nil]
  | cons c cs ih => rw [mapSpanAll, List.map_cons, ih]

variable (f : Span → Span)

@[simp] theorem mapSpan_kind (c : Concrete) : (c.mapSpan f).kind = c.kind := by
  cases c; rw [mapSpan]; rfl

@[simp] theorem mapSpan_role (c : Concrete) : (c.mapSpan f).role = c.role := by
  cases c; rw [mapSpan]; rfl

@[simp] theorem mapSpan_span (c : Concrete) : (c.mapSpan f).span = f c.span := by
  cases c; rw [mapSpan]; rfl

@[simp] theorem mapSpan_text (c : Concrete) : (c.mapSpan f).text = c.text := by
  cases c; rw [mapSpan]; rfl

end Concrete

/-! ## Converting several parts -/

theorem bind_eq_ok {ε α β : Type} {x : Except ε α} {f : α → Except ε β} {b : β} :
    (x >>= f) = .ok b ↔ ∃ a, x = .ok a ∧ f a = .ok b := by
  cases x with
  | error e => simp [bind, Except.bind]
  | ok a => simp [bind, Except.bind]

theorem mapError_eq_ok {ε ε' α : Type} {x : Except ε α} {f : ε → ε'} {a : α} :
    x.mapError f = .ok a ↔ x = .ok a := by
  cases x with
  | error e => simp [Except.mapError]
  | ok b => simp [Except.mapError]

/-- A pass over a list succeeds with the results of its items. -/
theorem mapM_eq_ok_iff {ε α β : Type} {f : α → Except ε β} {xs : List α} {ys : List β} :
    xs.mapM f = .ok ys ↔ List.Forall₂ (fun x y => f x = .ok y) xs ys := by
  induction xs generalizing ys with
  | nil => simp [List.forall₂_nil_left_iff, pure, Except.pure, eq_comm]
  | cons x xs ih =>
    rw [List.mapM_cons, bind_eq_ok, List.forall₂_cons_left_iff]
    constructor
    · rintro ⟨y, hy, h⟩
      obtain ⟨ys', hys, h⟩ := bind_eq_ok.mp h
      cases h
      exact ⟨y, ys', hy, ih.mp hys, rfl⟩
    · rintro ⟨y, ys', hy, hys, rfl⟩
      exact ⟨y, hy, bind_eq_ok.mpr ⟨ys', ih.mpr hys, rfl⟩⟩

theorem exists_mem_of_forall₂ {α β : Type} {R : α → β → Prop} {as : List α} {bs : List β}
    (h : List.Forall₂ R as bs) : ∀ a ∈ as, ∃ b ∈ bs, R a b := by
  induction h with
  | nil => exact fun a ha => absurd ha List.not_mem_nil
  | cons hab _ ih =>
    refine List.forall_mem_cons.mpr ⟨⟨_, List.mem_cons_self, hab⟩, fun a ha => ?_⟩
    obtain ⟨b, hb, hab⟩ := ih a ha
    exact ⟨b, List.mem_cons_of_mem _ hb, hab⟩

theorem exists_of_mem_mapM {ε α β : Type} {f : α → Except ε β} {xs : List α} {ys : List β}
    (h : xs.mapM f = .ok ys) : ∀ y ∈ ys, ∃ x ∈ xs, f x = .ok y :=
  exists_mem_of_forall₂ (mapM_eq_ok_iff.mp h).flip

theorem mapM_congr {ε α β : Type} {f g : α → Except ε β} {xs : List α}
    (h : ∀ x ∈ xs, f x = g x) : xs.mapM f = xs.mapM g := by
  induction xs with
  | nil => rfl
  | cons x xs ih =>
    rw [List.mapM_cons, List.mapM_cons, h x List.mem_cons_self,
      ih fun x' hx' => h x' (List.mem_cons_of_mem _ hx')]

variable {l l' : Layout} {mode : Mode} {atTop : Bool} {role : Role} {keyword : Option String}
  {cs : List Concrete}

theorem convertAll_eq :
    convertAll l mode atTop cs =
      (cs.filter (·.kind != .token)).mapM (convert l mode atTop) := by
  induction cs with
  | nil => rfl
  | cons c cs ih =>
    rw [convertAll, ih, List.filter_cons]
    cases hc : c.kind == .token with
    | true => simp [bne, hc]
    | false => simp [bne, hc]

theorem convertAllAt_eq :
    convertAllAt l mode role cs =
      (cs.filter (·.role == role)).mapM (convert l mode false) := by
  induction cs with
  | nil => rfl
  | cons c cs ih =>
    rw [convertAllAt, ih, List.filter_cons]
    cases hc : c.role == role with
    | true => simp
    | false => simp

theorem convertAt_eq :
    convertAt l mode role cs =
      match cs.find? (·.role == role) with
      | none => .ok none
      | some c => some <$> convert l mode false c := by
  induction cs with
  | nil => rfl
  | cons c cs ih =>
    rw [convertAt, ih, List.find?_cons]
    cases hc : c.role == role with
    | true => simp
    | false => simp

/-- How a part of a loop over a collection is converted. -/
def convertLoopPart (l : Layout) (keyword : Option String) (c : Concrete) :
    Except LiteralError Node :=
  match keyword with
  | none => convert l .value false c
  | some word =>
    if c.role == .left then do
      let target ← convert l .target false c
      return .declaration word [.declarator (some target) none target.range] (l.range c.span)
    else convert l .value false c

theorem convertLoop_eq :
    convertLoop l keyword cs =
      (cs.filter (·.kind != .token)).mapM (convertLoopPart l keyword) := by
  induction cs with
  | nil => rfl
  | cons c cs ih =>
    rw [convertLoop.eq_def, List.filter_cons]
    cases hc : c.kind == .token with
    | true => simp [bne, hc, ih]
    | false =>
      cases keyword with
      | none => simp [bne, hc, ih, convertLoopPart]
      | some word => cases hr : c.role == .left <;> simp [bne, hc, hr, ih, convertLoopPart]

/-! ## What conversion makes of a construct -/

/-- A node was made of a grammar node: by conversion, or as the declaration of the variable of a
loop. -/
inductive Made (l : Layout) (c : Concrete) : Node → Prop
  | converted {mode : Mode} {atTop : Bool} {n : Node} (h : convert l mode atTop c = .ok n) :
      Made l c n
  | declared {word : String} {target : Node} (h : convert l .target false c = .ok target) :
      Made l c (.declaration word [.declarator (some target) none target.range] (l.range c.span))

/-- All nodes were made of some of the grammar nodes. -/
def AllMade (l : Layout) (cs : List Concrete) (ns : List Node) : Prop :=
  ∀ n ∈ ns, ∃ c ∈ cs, Made l c n

theorem AllMade.nil : AllMade l cs [] := fun _ hn => absurd hn List.not_mem_nil

theorem AllMade.append {ms ns : List Node} (hms : AllMade l cs ms) (hns : AllMade l cs ns) :
    AllMade l cs (ms ++ ns) :=
  List.forall_mem_append.mpr ⟨hms, hns⟩

theorem AllMade.head? {ns : List Node} (h : AllMade l cs ns) : AllMade l cs ns.head?.toList :=
  fun n hn => h n (List.mem_of_mem_head? (Option.mem_toList.mp hn))

theorem made_of_convertAll {ns : List Node} (h : convertAll l mode atTop cs = .ok ns) :
    AllMade l cs ns := by
  rw [convertAll_eq] at h
  intro n hn
  obtain ⟨c, hc, h⟩ := exists_of_mem_mapM h n hn
  exact ⟨c, List.mem_of_mem_filter hc, .converted h⟩

theorem made_of_convertAllAt {ns : List Node} (h : convertAllAt l mode role cs = .ok ns) :
    AllMade l cs ns := by
  rw [convertAllAt_eq] at h
  intro n hn
  obtain ⟨c, hc, h⟩ := exists_of_mem_mapM h n hn
  exact ⟨c, List.mem_of_mem_filter hc, .converted h⟩

theorem made_of_convertAt {node : Option Node} (h : convertAt l mode role cs = .ok node) :
    AllMade l cs node.toList := by
  rw [convertAt_eq] at h
  intro n hn
  cases hc : cs.find? (·.role == role) with
  | none =>
    rw [hc] at h
    cases h
    cases hn
  | some c =>
    rw [hc] at h
    obtain ⟨m, hm, h⟩ := bind_eq_ok.mp h
    cases h
    cases List.mem_singleton.mp hn
    exact ⟨c, List.mem_of_find?_eq_some hc, .converted hm⟩

theorem made_of_convertLoop {ns : List Node} (h : convertLoop l keyword cs = .ok ns) :
    AllMade l cs ns := by
  rw [convertLoop_eq] at h
  intro n hn
  obtain ⟨c, hc, h⟩ := exists_of_mem_mapM h n hn
  refine ⟨c, List.mem_of_mem_filter hc, ?_⟩
  unfold convertLoopPart at h
  split at h
  · exact .converted h
  · split at h
    · obtain ⟨target, htarget, h⟩ := bind_eq_ok.mp h
      cases h
      exact .declared htarget
    · exact .converted h

/-- Is a node the synthetic function around a unit? -/
def Node.isSynthetic : Node → Bool
  | .function _ _ _ _ synthetic _ => synthetic
  | _ => false

/-- If no wrapper is looked for, none is found. -/
theorem Layout.isWrapper_eq_false_or (l : Layout) (atTop : Bool) (span : Span)
    (name : Option Node) : l.isWrapper atTop span name = false ∨ l.wrapper ≠ none := by
  unfold isWrapper
  split
  · rename_i hw
    rw [hw]
    exact .inr (Option.some_ne_none _)
  · exact .inl rfl

/-- A node stands where a construct stands, and the nodes below it were made of its parts. -/
structure Node.MadeOf (l : Layout) (c : Concrete) (n : Node) : Prop where
  range : n.range = l.range c.span
  synthetic : n.isSynthetic = false ∨ l.wrapper ≠ none
  children : AllMade l c.children n.children

/-- Parentheses around one part leave no node of their own. Any other construct becomes one. -/
theorem convert_cases {c : Concrete} {n : Node} (h : convert l mode atTop c = .ok n) :
    (∃ d ∈ c.children, Made l d n) ∨ n.MadeOf l c := by
  obtain ⟨kind, role, span, text, cs⟩ := c
  rw [convert.eq_def] at h
  cases kind
  case parenthesized =>
    obtain ⟨parts, hparts, h⟩ := bind_eq_ok.mp h
    split at h
    · cases h
      exact .inl (made_of_convertAll hparts _ (List.mem_singleton_self _))
    · cases h
      exact .inr ⟨rfl, .inl rfl, made_of_convertAll hparts⟩
  all_goals refine .inr ?_
  -- Patterns, which are expressions unless they are targets.
  case shorthandPropertyPattern =>
    dsimp only at h
    split at h
    · cases h
      exact ⟨rfl, .inl rfl, .nil⟩
    · obtain ⟨parts, hparts, h⟩ := bind_eq_ok.mp h
      cases h
      exact ⟨rfl, .inl rfl, made_of_convertAll hparts⟩
  case objectPattern | arrayPattern | restPattern =>
    dsimp only at h
    split at h <;> obtain ⟨parts, hparts, h⟩ := bind_eq_ok.mp h <;> cases h <;>
      exact ⟨rfl, .inl rfl, made_of_convertAll hparts⟩
  case pairPattern | assignmentPattern | objectAssignmentPattern =>
    dsimp only at h
    split at h
    · obtain ⟨first, hfirst, h⟩ := bind_eq_ok.mp h
      obtain ⟨second, hsecond, h⟩ := bind_eq_ok.mp h
      cases h
      exact ⟨rfl, .inl rfl, .append (made_of_convertAt hfirst) (made_of_convertAt hsecond)⟩
    · obtain ⟨parts, hparts, h⟩ := bind_eq_ok.mp h
      cases h
      exact ⟨rfl, .inl rfl, made_of_convertAll hparts⟩
  -- Nodes without parts, among them literals, which have a value.
  all_goals try (cases h; exact ⟨rfl, .inl rfl, .nil⟩)
  all_goals obtain ⟨first, hfirst, h⟩ := bind_eq_ok.mp h
  all_goals try (cases h; exact ⟨rfl, .inl rfl, .nil⟩)
  -- Nodes with one list of parts, of which a return has at most one.
  all_goals try (cases h; exact ⟨rfl, .inl rfl, made_of_convertAll hfirst⟩)
  case returnStatement =>
    cases h
    exact ⟨rfl, .inl rfl, AllMade.head? (made_of_convertAll hfirst)⟩
  case forInStatement =>
    cases h
    exact ⟨rfl, .inl rfl, made_of_convertLoop hfirst⟩
  -- Nodes with two parts, or with one and a list.
  all_goals obtain ⟨second, hsecond, h⟩ := bind_eq_ok.mp h
  case call =>
    cases h
    exact ⟨rfl, .inl rfl, .append (made_of_convertAt hsecond) (made_of_convertAllAt hfirst)⟩
  case new =>
    cases h
    exact ⟨rfl, .inl rfl, .append (made_of_convertAt hfirst) (made_of_convertAllAt hsecond)⟩
  case variableDeclarator | assignment | augmentedAssignment | member | subscript | catchClause =>
    cases h
    exact ⟨rfl, .inl rfl, .append (made_of_convertAt hfirst) (made_of_convertAt hsecond)⟩
  -- Classes and functions.
  all_goals obtain ⟨third, hthird, h⟩ := bind_eq_ok.mp h
  case classDeclaration | classExpression =>
    cases h
    exact ⟨rfl, .inl rfl, .append (.append (made_of_convertAt hsecond) (made_of_convertAt hfirst))
      (made_of_convertAllAt hthird)⟩
  all_goals
    cases h
    refine ⟨rfl, ?_, .append (.append (made_of_convertAt hfirst) (made_of_convertAllAt hsecond))
      (made_of_convertAt hthird)⟩
  case functionDeclaration | generatorFunctionDeclaration => exact l.isWrapper_eq_false_or ..
  all_goals exact .inl rfl

/-- Every node of a tree stands where a grammar node at or below a certain one stands, and none is
synthetic if no wrapper is looked for. -/
def Node.Placed (l : Layout) (c : Concrete) (n : Node) : Prop :=
  ∀ m ∈ nodesOf [n],
    (∃ s ∈ c.spans, m.range = l.range s) ∧ (m.isSynthetic = false ∨ l.wrapper ≠ none)

theorem Concrete.span_mem_spans (c : Concrete) : c.span ∈ c.spans := by
  cases c
  rw [spans]
  exact List.mem_cons_self

theorem Concrete.spans_of_child {c d : Concrete} (hd : d ∈ c.children) {s : Span}
    (hs : s ∈ d.spans) : s ∈ c.spans := by
  cases c
  rw [spans]
  exact List.mem_cons_of_mem _ (mem_spansAll.mpr ⟨d, hd, hs⟩)

theorem Node.Placed.of_child {c d : Concrete} {n : Node} (hd : d ∈ c.children)
    (h : Placed l d n) : Placed l c n := by
  intro m hm
  obtain ⟨⟨s, hs, hrange⟩, hsynthetic⟩ := h m hm
  exact ⟨⟨s, Concrete.spans_of_child hd hs, hrange⟩, hsynthetic⟩

theorem Node.Placed.of_made {d : Concrete} {n : Node} (hmade : Made l d n)
    (h : ∀ {mode atTop n}, convert l mode atTop d = .ok n → Placed l d n) : Placed l d n := by
  cases hmade with
  | converted hn => exact h hn
  | @declared word target htarget =>
    intro m hm
    rcases mem_nodesOf_singleton.mp hm with rfl | ⟨declarator, hdeclarator, hm⟩
    · exact ⟨⟨d.span, d.span_mem_spans, rfl⟩, .inl rfl⟩
    cases List.mem_singleton.mp hdeclarator
    rcases mem_nodesOf_singleton.mp hm with rfl | ⟨target', htarget', hm⟩
    · exact ⟨(h htarget target (mem_nodesOf_singleton.mpr (.inl rfl))).1, .inl rfl⟩
    cases List.mem_singleton.mp htarget'
    exact h htarget m hm

/-- **Places.** Every node of a converted tree stands where a grammar node stands, and none is
synthetic if no wrapper is looked for. -/
theorem placed_convert {c : Concrete} {n : Node} (h : convert l mode atTop c = .ok n) :
    n.Placed l c := by
  induction c using Concrete.parts_induction generalizing mode atTop n with
  | step kind role span text cs ih =>
    have hpart {m : Node} (hm : ∃ d ∈ cs, Made l d m) :
        m.Placed l (.node kind role span text cs) := by
      obtain ⟨d, hd, hmade⟩ := hm
      exact .of_child hd (.of_made hmade fun h => ih d hd h)
    rcases convert_cases h with honly | ⟨hrange, hsynthetic, hbelow⟩
    · exact hpart honly
    · intro m hm
      rcases mem_nodesOf_singleton.mp hm with rfl | ⟨k, hk, hm⟩
      · exact ⟨⟨span, Concrete.span_mem_spans _, hrange⟩, hsynthetic⟩
      · exact hpart (hbelow k hk) m hm

/-! ## Moving a construct and its layout -/

/-- A span stands at the same place in one layout as its image in another, and starts the wrapper
there if it does so here. -/
structure Layout.Agrees (l l' : Layout) (f : Span → Span) (s : Span) : Prop where
  range : l'.range (f s) = l.range s
  isWrapper : ∀ atTop atTop' name, l'.isWrapper atTop' (f s) name = l.isWrapper atTop s name

section Moved

variable {f : Span → Span}
  (h : ∀ c ∈ cs, ∀ mode atTop atTop',
    convert l' mode atTop' (c.mapSpan f) = convert l mode atTop c)

include h

theorem convertAll_mapSpan (mode : Mode) (atTop atTop' : Bool) :
    convertAll l' mode atTop' (cs.map (·.mapSpan f)) = convertAll l mode atTop cs := by
  rw [convertAll_eq, convertAll_eq, List.filter_map, List.mapM_map]
  simp only [Function.comp_def, Concrete.mapSpan_kind]
  exact mapM_congr fun c hc => h c (List.mem_of_mem_filter hc) mode atTop atTop'

theorem convertAllAt_mapSpan (mode : Mode) (role : Role) :
    convertAllAt l' mode role (cs.map (·.mapSpan f)) = convertAllAt l mode role cs := by
  rw [convertAllAt_eq, convertAllAt_eq, List.filter_map, List.mapM_map]
  simp only [Function.comp_def, Concrete.mapSpan_role]
  exact mapM_congr fun c hc => h c (List.mem_of_mem_filter hc) mode false false

theorem convertAt_mapSpan (mode : Mode) (role : Role) :
    convertAt l' mode role (cs.map (·.mapSpan f)) = convertAt l mode role cs := by
  rw [convertAt_eq, convertAt_eq, List.find?_map]
  simp only [Function.comp_def, Concrete.mapSpan_role]
  cases hc : cs.find? (·.role == role) with
  | none => rfl
  | some c =>
    have hmem := List.mem_of_find?_eq_some hc
    simp only [Option.map_some, h c hmem mode false false]

theorem convertLoop_mapSpan (hrange : ∀ c ∈ cs, l'.range (f c.span) = l.range c.span)
    (keyword : Option String) :
    convertLoop l' keyword (cs.map (·.mapSpan f)) = convertLoop l keyword cs := by
  rw [convertLoop_eq, convertLoop_eq, List.filter_map, List.mapM_map]
  simp only [Function.comp_def, Concrete.mapSpan_kind]
  refine mapM_congr fun c hc => ?_
  have hmem := List.mem_of_mem_filter hc
  simp only [convertLoopPart, h c hmem _ false false, hrange c hmem, Concrete.mapSpan_role,
    Concrete.mapSpan_span]

end Moved

theorem textAt_mapSpan (f : Span → Span) (role : Role) (cs : List Concrete) :
    textAt role (cs.map (·.mapSpan f)) = textAt role cs := by
  rw [textAt, textAt, List.find?_map]
  simp only [Function.comp_def, Concrete.mapSpan_role, Option.map_map, Concrete.mapSpan_text]

/-- **Moving.** If every span of a construct stands at the same place after it has changed, in a
layout of its own, then the construct is converted to the same tree. -/
theorem convert_mapSpan {f : Span → Span} {c : Concrete} (h : ∀ s ∈ c.spans, l.Agrees l' f s)
    (mode : Mode) (atTop atTop' : Bool) :
    convert l' mode atTop' (c.mapSpan f) = convert l mode atTop c := by
  induction c using Concrete.parts_induction generalizing mode atTop atTop' with
  | step kind role span text cs ih =>
    have hspan : l.Agrees l' f span := h span (Concrete.span_mem_spans _)
    have hbelow : ∀ c ∈ cs, ∀ s ∈ c.spans, l.Agrees l' f s := fun c hc s hs =>
      h s (Concrete.spans_of_child hc hs)
    have hparts : ∀ c ∈ cs, ∀ mode atTop atTop',
        convert l' mode atTop' (c.mapSpan f) = convert l mode atTop c := fun c hc =>
      ih c hc (hbelow c hc)
    have hrange : ∀ c ∈ cs, l'.range (f c.span) = l.range c.span := fun c hc =>
      (hbelow c hc c.span c.span_mem_spans).range
    rw [Concrete.mapSpan, Concrete.mapSpanAll_eq, convert.eq_def, convert.eq_def]
    simp only [hspan.range, hspan.isWrapper atTop atTop', textAt_mapSpan,
      fun mode a => convertAll_mapSpan hparts mode a a, convertAllAt_mapSpan hparts,
      convertAt_mapSpan hparts, convertLoop_mapSpan hparts hrange]

end FlowLint.Script
