import FlowLint.Proofs.Survey

/-!
# The order of a walk

A walk works off a stack of visits. Here it is put in terms of the tree alone.

* `preorder` lists a node and then what is listed for its children, from left to right, and
  `walk_eq_preorder` says that a walk yields the same.
* `nodesOf` lists the nodes that a walk over some trees yields, without their ancestors. It has a
  tree and with it all that is below (`mem_nodesOf_of_child`).
-/

namespace FlowLint

open Script Scoping

/-! ## Visits -/

/-- A node with its ancestors, then its children and what is below them, from left to right. -/
def preorder (n : Node) (ancestors : List Node) : List Visit :=
  (n, ancestors) :: n.children.attach.flatMap fun c => preorder c.1 (ancestors ++ [n])
termination_by n.size
decreasing_by exact size_lt_of_mem_children c.2

theorem preorder_eq (n : Node) (ancestors : List Node) :
    preorder n ancestors =
      (n, ancestors) :: n.children.flatMap fun c => preorder c (ancestors ++ [n]) := by
  rw [preorder]
  simp [List.flatMap_subtype]

/-- What a stack still has to yield is what each of its visits has to yield, one after the
other. -/
theorem walkStack_eq_preorder (stack : List Visit) :
    walkStack stack = stack.flatMap fun v => preorder v.1 v.2 := by
  induction stack using walkStack.induct with
  | case1 => rw [walkStack, List.flatMap_nil]
  | case2 v rest ih =>
    have hbelow : v.below.flatMap (fun w => preorder w.1 w.2) =
        v.1.children.flatMap fun c => preorder c (v.2 ++ [v.1]) := by
      rw [Visit.below, List.flatMap_map]
    rw [walkStack, ih, List.flatMap_append, hbelow, List.flatMap_cons, preorder_eq v.1 v.2,
      List.cons_append]

/-- **Order.** A walk lists parents before children and children from left to right. -/
theorem walk_eq_preorder (n : Node) (ancestors : List Node) :
    walk n ancestors = preorder n ancestors := by
  rw [walk, walkStack_eq_preorder, List.flatMap_cons, List.flatMap_nil, List.append_nil]

/-! ## Nodes -/

/-- Which nodes a walk yields does not depend on their ancestors. -/
theorem walkStack_nodes {s t : List Visit} (h : s.map Prod.fst = t.map Prod.fst) :
    (walkStack s).map Prod.fst = (walkStack t).map Prod.fst := by
  induction s using walkStack.induct generalizing t with
  | case1 =>
    cases t with
    | nil => rfl
    | cons v rest => cases h
  | case2 v rest ih =>
    cases t with
    | nil => cases h
    | cons v' rest' =>
      obtain ⟨hv, hrest⟩ := List.cons.inj h
      have hbelow : v.below.map Prod.fst = v'.below.map Prod.fst := by
        simp only [Visit.below, List.map_map, hv]
        rfl
      have hstack : (v.below ++ rest).map Prod.fst = (v'.below ++ rest').map Prod.fst := by
        rw [List.map_append, List.map_append, hbelow, hrest]
      rw [walkStack, walkStack, List.map_cons, List.map_cons, hv, ih hstack]

/-- The nodes of trees, parents before children, left to right. -/
def nodesOf (trees : List Node) : List Node :=
  (walkStack (trees.map fun n => (n, []))).map Prod.fst

theorem walkStack_eq_nodesOf {s : List Visit} {trees : List Node}
    (h : s.map Prod.fst = trees) : (walkStack s).map Prod.fst = nodesOf trees := by
  refine walkStack_nodes ?_
  rw [h, List.map_map]
  exact (List.map_id _).symm

theorem nodes_walk (n : Node) : (walk n []).map Prod.fst = nodesOf [n] := rfl

theorem nodesOf_cons (n : Node) (rest : List Node) :
    nodesOf (n :: rest) = n :: nodesOf (n.children ++ rest) := by
  rw [nodesOf, List.map_cons, walkStack, List.map_cons, walkStack_eq_nodesOf]
  rw [Visit.below, List.map_append, List.map_map, List.map_map]
  exact congrArg₂ (· ++ ·) (List.map_id _) (List.map_id _)

theorem nodesOf_append (ms ns : List Node) : nodesOf (ms ++ ns) = nodesOf ms ++ nodesOf ns := by
  simp only [nodesOf, walkStack_eq_preorder, List.map_append, List.flatMap_append]

theorem mem_nodesOf {m : Node} {trees : List Node} :
    m ∈ nodesOf trees ↔ ∃ n ∈ trees, m = n ∨ m ∈ nodesOf n.children := by
  induction trees with
  | nil => simp [nodesOf, walkStack]
  | cons n rest ih =>
    rw [nodesOf_cons, nodesOf_append, List.mem_cons, List.mem_append, ih, List.exists_mem_cons_iff,
      or_assoc]

theorem mem_nodesOf_singleton {m n : Node} :
    m ∈ nodesOf [n] ↔ m = n ∨ ∃ c ∈ n.children, m ∈ nodesOf [c] := by
  have hone (c : Node) : m ∈ nodesOf [c] ↔ m = c ∨ m ∈ nodesOf c.children := by
    rw [nodesOf_cons, List.append_nil, List.mem_cons]
  simp only [hone]
  rw [mem_nodesOf]

/-- With a node, the nodes directly below it are listed. -/
theorem mem_nodesOf_of_child {n c : Node} {trees : List Node} (hn : n ∈ nodesOf trees)
    (hc : c ∈ n.children) : c ∈ nodesOf trees := by
  induction hk : Node.sizeAll trees using Nat.strongRecOn generalizing trees with
  | _ k ih =>
    obtain ⟨t, ht, rfl | hbelow⟩ := mem_nodesOf.mp hn
    · exact mem_nodesOf.mpr ⟨n, ht, .inr (mem_nodesOf.mpr ⟨c, hc, .inl rfl⟩)⟩
    · have hsize := size_le_sizeAll ht
      rw [Node.size_eq_sizeAll_children] at hsize
      exact mem_nodesOf.mpr ⟨t, ht, .inr (ih _ (by omega) hbelow rfl)⟩

end FlowLint
