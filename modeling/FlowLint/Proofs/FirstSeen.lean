import Mathlib.Data.List.Nodup
import Mathlib.Data.List.Perm.Basic

/-!
# What is seen first

Walking along a list and noting what was not seen before lists each item once, in the order in
which the items first appear. What is listed in this way divides a list into groups.

* `FirstSeen`: a list has the items of another one, each once, by first appearance.
* `firstSeen_foldl`: what a walk lists.
* `perm_flatMap_filter`: the groups of a list, one after the other, are a rearrangement of it.
-/

namespace FlowLint

variable {α : Type} [DecidableEq α]

/-- The items of a list, each once, in the order in which they first appear. -/
structure FirstSeen (xs listed : List α) : Prop where
  nodup : listed.Nodup
  mem_iff : ∀ x, x ∈ listed ↔ x ∈ xs
  ordered : listed.Pairwise fun x y => xs.idxOf x < xs.idxOf y

namespace FirstSeen

variable {xs listed : List α}

theorem nil : FirstSeen ([] : List α) [] :=
  ⟨List.nodup_nil, fun _ => Iff.rfl, .nil⟩

/-- What comes later in a list has no effect on where its items first appear. -/
theorem ordered_append (h : FirstSeen xs listed) (more : List α) :
    listed.Pairwise fun x y => (xs ++ more).idxOf x < (xs ++ more).idxOf y := by
  refine h.ordered.imp_of_mem fun {x y} hx hy hlt => ?_
  rwa [List.idxOf_append_of_mem ((h.mem_iff x).mp hx),
    List.idxOf_append_of_mem ((h.mem_iff y).mp hy)]

/-- One item more. -/
theorem concat (h : FirstSeen xs listed) (x : α) :
    FirstSeen (xs ++ [x]) (if x ∈ listed then listed else listed ++ [x]) := by
  by_cases hx : x ∈ listed
  · rw [if_pos hx]
    refine ⟨h.nodup, fun y => ?_, h.ordered_append [x]⟩
    rw [List.mem_append, List.mem_singleton, ← h.mem_iff]
    constructor
    · exact .inl
    · rintro (hy | rfl)
      · exact hy
      · exact hx
  · rw [if_neg hx]
    refine ⟨?_, fun y => ?_, List.pairwise_append.mpr ⟨h.ordered_append [x], ?_, ?_⟩⟩
    · exact h.nodup.append (List.nodup_singleton x) (by simpa using hx)
    · rw [List.mem_append, List.mem_append, h.mem_iff]
    · exact List.pairwise_singleton _ _
    · -- The new item is the last one, where all others have appeared before.
      intro y hy z hz
      have hyxs := (h.mem_iff y).mp hy
      have hxxs : x ∉ xs := fun hmem => hx ((h.mem_iff x).mpr hmem)
      rw [List.mem_singleton.mp hz, List.idxOf_append_of_mem hyxs,
        List.idxOf_append_of_notMem hxxs]
      exact Nat.lt_add_right _ (List.idxOf_lt_length_of_mem hyxs)

theorem foldl (h : FirstSeen xs listed) (more : List α) :
    FirstSeen (xs ++ more)
      (more.foldl (fun seen x => if x ∈ seen then seen else seen ++ [x]) listed) := by
  induction more generalizing xs listed with
  | nil => rwa [List.append_nil]
  | cons x more ih =>
    have hrest := ih (h.concat x)
    rwa [List.append_assoc] at hrest

end FirstSeen

/-- A walk along a list that notes what it has not seen before. -/
theorem firstSeen_foldl (xs : List α) :
    FirstSeen xs (xs.foldl (fun seen x => if x ∈ seen then seen else seen ++ [x]) []) :=
  FirstSeen.nil.foldl xs

omit [DecidableEq α] in
/-- Whoever contributes no items has no part in what is seen. -/
theorem flatMap_filter_nonempty {ι : Type} (items : ι → List α) (xs : List ι) :
    (xs.filter fun x => !(items x).isEmpty).flatMap items = xs.flatMap items := by
  induction xs with
  | nil => rfl
  | cons x xs ih =>
    rw [List.filter_cons, List.flatMap_cons, ← ih]
    cases hitems : items x with
    | nil => simp
    | cons y ys => simp [hitems]

/-- Items that are grouped by keys are the same items in another order, if each of them has one of
the keys. -/
theorem perm_flatMap_filter {ι : Type} {key : ι → α} {keys : List α} {xs : List ι}
    (hkeys : keys.Nodup) (hcovered : ∀ x ∈ xs, key x ∈ keys) :
    (keys.flatMap fun k => xs.filter fun x => key x = k).Perm xs := by
  induction keys generalizing xs with
  | nil =>
    cases xs with
    | nil => exact .refl _
    | cons x xs => exact absurd (hcovered x List.mem_cons_self) List.not_mem_nil
  | cons k keys ih =>
    obtain ⟨hk, hkeys⟩ := List.nodup_cons.mp hkeys
    -- The items of other groups are among those that are left without the first group.
    have hothers : (keys.flatMap fun k' => xs.filter fun x => key x = k') =
        keys.flatMap fun k' => (xs.filter fun x => !(key x = k)).filter fun x => key x = k' := by
      refine List.flatMap_congr fun k' hk' => ?_
      have hne : k' ≠ k := fun heq => hk (heq ▸ hk')
      rw [List.filter_filter]
      refine List.filter_congr fun x _ => ?_
      by_cases hx : key x = k'
      · simp [hx, hne]
      · simp [hx]
    have hleft : ∀ x ∈ xs.filter (fun x => !(key x = k)), key x ∈ keys := by
      intro x hx
      obtain ⟨hmem, hnot⟩ := List.mem_filter.mp hx
      have hne : key x ≠ k := by simpa using hnot
      exact (List.mem_cons.mp (hcovered x hmem)).resolve_left hne
    rw [List.flatMap_cons, hothers]
    exact ((ih hkeys hleft).append_left _).trans (List.filter_append_perm _ xs)

end FlowLint
