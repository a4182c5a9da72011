import FlowLint.Proofs.Walk

/-!
# Occurrences of nodes

Equal nodes may stand at several places of a tree. A place has an address: the numbers of the
children to go down to, from the root on.

* `occurrence?` goes down along an address. It gives the node there, with the nodes on the way.
* `addresses` lists the places of a tree. None is missing (`mem_addresses_iff`), and they come in
  lexicographic order (`pairwise_addresses`), so that a place comes before those below it and those
  further right.
* `walk_occurrences`: a walk goes through the places in this order.
-/

namespace FlowLint.Script

open Scoping

/-- The way down to a place in a tree: the number of the child to go to, counting from 0, at each
node that is passed. -/
abbrev Address := List Nat

/-- The node at an address below `n`, with the nodes on the way to it added to `ancestors`. -/
def occurrence? (n : Node) (ancestors : List Node) : Address → Option Visit
  | [] => some (n, ancestors)
  | i :: rest => n.children[i]?.bind fun c => occurrence? c (ancestors ++ [n]) rest

/-- The addresses of a tree: the root, then what lies below its children, from left to right. -/
def addresses (n : Node) : List Address :=
  [] :: n.children.attach.zipIdx.flatMap fun (c, i) => (addresses c.1).map (i :: ·)
termination_by n.size
decreasing_by exact size_lt_of_mem_children c.2

theorem addresses_eq (n : Node) :
    addresses n = [] :: n.children.zipIdx.flatMap fun (c, i) => (addresses c).map (i :: ·) := by
  rw [addresses]
  congr 1
  conv_rhs => rw [← List.attach_map_subtype_val n.children]
  rw [List.zipIdx_map, List.flatMap_map]
  rfl

/-- To show something of every node, show it of a node from its children. -/
theorem children_induction {motive : Node → Prop}
    (step : ∀ n, (∀ c ∈ n.children, motive c) → motive n) (n : Node) : motive n := by
  induction hk : n.size using Nat.strongRecOn generalizing n with
  | _ k ih => exact step n fun c hc => ih _ (hk ▸ size_lt_of_mem_children hc) c rfl

/-- The addresses that are listed are those that stay inside the tree. -/
theorem mem_addresses_iff {n : Node} {ancestors : List Node} {a : Address} :
    a ∈ addresses n ↔ (occurrence? n ancestors a).isSome := by
  induction a generalizing n ancestors with
  | nil =>
    rw [addresses_eq]
    exact iff_of_true List.mem_cons_self rfl
  | cons i rest ih =>
    rw [addresses_eq, occurrence?]
    constructor
    · intro h
      obtain ⟨⟨c, j⟩, hc, h⟩ := List.mem_flatMap.mp (List.mem_of_ne_of_mem (List.cons_ne_nil _ _) h)
      obtain ⟨rest', hrest, he⟩ := List.mem_map.mp h
      cases he
      rw [List.mem_zipIdx_iff_getElem?.mp hc]
      exact ih.mp hrest
    · intro h
      obtain ⟨v, h⟩ := Option.isSome_iff_exists.mp h
      obtain ⟨c, hc, h⟩ := Option.bind_eq_some_iff.mp h
      refine List.mem_cons_of_mem _ (List.mem_flatMap.mpr ⟨(c, i), ?_, ?_⟩)
      · exact List.mem_zipIdx_iff_getElem?.mpr hc
      · exact List.mem_map_of_mem (ih.mpr (Option.isSome_iff_exists.mpr ⟨v, h⟩))

/-- A place comes before all that is below it, and what is below a child comes before what is
below the children further right. -/
theorem pairwise_addresses (n : Node) : (addresses n).Pairwise (· < ·) := by
  induction n using children_induction with
  | step n ih =>
    rw [addresses_eq, List.pairwise_cons, List.pairwise_flatMap]
    refine ⟨?_, ?_, ?_⟩
    · intro a ha
      obtain ⟨⟨c, i⟩, -, ha⟩ := List.mem_flatMap.mp ha
      obtain ⟨rest, -, rfl⟩ := List.mem_map.mp ha
      exact List.nil_lt_cons ..
    · rintro ⟨c, i⟩ hc
      have hmem : c ∈ n.children := List.mem_of_getElem? (List.mem_zipIdx_iff_getElem?.mp hc)
      refine (ih c hmem).map _ fun a b hab => ?_
      exact List.cons_lt_cons_iff.mpr (.inr ⟨rfl, hab⟩)
    · have hnumbers : (n.children.zipIdx.map Prod.snd).Pairwise (· < ·) := by
        rw [List.zipIdx_map_snd]
        exact List.pairwise_lt_range'
      refine (List.pairwise_map.mp hnumbers).imp ?_
      rintro ⟨c, i⟩ ⟨d, j⟩ hij a ha b hb
      obtain ⟨rest, -, rfl⟩ := List.mem_map.mp ha
      obtain ⟨rest', -, rfl⟩ := List.mem_map.mp hb
      exact List.cons_lt_cons_iff.mpr (.inl hij)

/-- The order of a walk is that of the addresses. -/
theorem preorder_eq_occurrences (n : Node) (ancestors : List Node) :
    (preorder n ancestors).map some = (addresses n).map (occurrence? n ancestors) := by
  induction n using children_induction generalizing ancestors with
  | step n ih =>
    have hbelow : ∀ v ∈ n.children.zipIdx,
        (addresses v.1).map (occurrence? n ancestors ∘ (v.2 :: ·)) =
          (preorder v.1 (ancestors ++ [n])).map some := by
      rintro ⟨c, i⟩ hc
      have hget := List.mem_zipIdx_iff_getElem?.mp hc
      rw [ih c (List.mem_of_getElem? hget)]
      refine List.map_congr_left fun a _ => ?_
      rw [Function.comp_apply, occurrence?, hget, Option.bind_some]
    rw [preorder_eq, addresses_eq, List.map_cons, List.map_cons, List.map_flatMap, List.map_flatMap]
    simp only [List.map_map]
    rw [List.flatMap_congr hbelow]
    conv_lhs => rw [← List.zipIdx_map_fst 0 n.children, List.flatMap_map]
    rfl

/-- **Occurrences.** A walk lists a node with its ancestors and then walks through its children,
from left to right, each with the node added at the end of the ancestors. So it goes through all
places of the tree, each once, in the lexicographic order of their addresses, and it lists the node
at each of them with the nodes on the way there, outermost first. -/
theorem walk_occurrences (n : Node) (ancestors : List Node) :
    (walk n ancestors =
      (n, ancestors) :: n.children.flatMap fun c => walk c (ancestors ++ [n])) ∧
    ∃ places : List Address,
      (walk n ancestors).map some = places.map (occurrence? n ancestors) ∧
      (∀ a, a ∈ places ↔ (occurrence? n ancestors a).isSome) ∧
      places.Pairwise (· < ·) := by
  simp only [walk_eq_preorder]
  exact ⟨preorder_eq n ancestors, addresses n, preorder_eq_occurrences n ancestors,
    fun _ => mem_addresses_iff, pairwise_addresses n⟩

end FlowLint.Script
