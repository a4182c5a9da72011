import FlowLint.Proofs.Intake
import FlowLint.Service

/-!
# Decoding of the program

The shapes of the program take more than what a handler needs: a text may stand for a number. What
is of the right kind already they leave as it is.

* `Shape.list_eq`: a list is read item by item.
* `Service.decoding_carriesFields`: the program takes the fields of an object over as they are.
-/

namespace FlowLint

namespace Checked

variable {α β : Type} {a : α} {x : Checked α}

theorem map_eq {f : α → β} (hx : x = .valid a) : f <$> x = .valid (f a) :=
  congrArg (f <$> ·) hx

theorem seq_eq {c : Checked (α → β)} {f : α → β} (hc : c = .valid f) (hx : x = .valid a) :
    c <*> x = .valid (f a) := by
  rw [hc, hx]
  rfl

end Checked

/-! ## Shapes -/

namespace Shape

variable {α : Type} {key : String} {shape : Shape α} {fallback a : α} {j v : Json}

theorem required_eq (hget : j.get? key = some v) (hv : shape v = .valid a) :
    required key shape j = .valid a := by
  rw [required, hget]
  exact congrArg (Checked.under (.key key)) hv

theorem optional_eq (hget : j.get? key = some v) (hv : shape v = .valid a) :
    optional key shape fallback j = .valid a := by
  rw [optional, hget]
  exact congrArg (Checked.under (.key key)) hv

/-- What has a member is an object. -/
theorem object_eq (hget : j.get? key = some v) (fields : Shape α) : object fields j = fields j := by
  cases j with
  | object ms => rfl
  | _ => cases hget

theorem nullable_eq {β : Type} {shape : Shape β} {f : β → Json} (x : Option β)
    (hshape : ∀ y, shape (f y) = .valid y) (hnull : ∀ y, f y ≠ .null) :
    nullable shape (optionJson f x) = .valid x := by
  cases x with
  | none => rfl
  | some y =>
    have hy := hshape y
    have hny := hnull y
    rw [optionJson]
    cases hfy : f y with
    | null => exact absurd hfy hny
    | _ =>
      rw [hfy] at hy
      exact Checked.map_eq hy

theorem naturalInteger_eq {n : Int} (h : 0 ≤ n) : naturalInteger (.int n) = .valid n := by
  simp [naturalInteger, integer, Checked.ensure, h]

theorem naturalDouble_eq {x : Binary64} (h : x.NonNeg) :
    naturalDouble (.float x) = .valid x := by
  have hlt : x.lt (.finite 0) = false := h
  simp [naturalDouble, double, Checked.ensure, hlt]

/-- A list is read item by item. -/
theorem list_eq {parts : List α} {items : List Json}
    (h : List.Forall₂ (fun a j => shape j = .valid a) parts items) :
    list shape (.array items) = .valid parts := by
  suffices hfrom : ∀ first, itemsFrom shape first items = .valid parts from hfrom 0
  induction h with
  | nil => exact fun _ => rfl
  | @cons a j parts items hj _ ih =>
    intro first
    rw [itemsFrom, hj, ih]
    rfl

/-- A field that is a list is read item by item. -/
theorem optional_list_eq {holds : α → Json → Prop} {parts fallback : List α}
    (hshape : ∀ a j, holds a j → shape j = .valid a) (h : j.HoldsEach key holds parts) :
    optional key (list shape) fallback j = .valid parts := by
  obtain ⟨items, hget, hitems⟩ := h
  exact optional_eq hget (list_eq (hitems.imp fun a j => hshape a j))

theorem list_string (names : List String) :
    list string (.array (names.map Json.string)) = .valid names :=
  list_eq (List.forall₂_map_right_iff.mpr (List.forall₂_same.mpr fun _ _ => rfl))

end Shape

/-! ## Requests -/

section

open Shape Checked

variable {j : Json}

theorem IssueInput.HeldBy.shape_eq {i : IssueInput} (h : i.HeldBy j) : shape j = .valid i := by
  have hword (x : Option String) : nullable string (optionJson .string x) = .valid x :=
    nullable_eq x (fun _ => rfl) nofun
  have hnumber (x : Option Int) : nullable integer (optionJson .int x) = .valid x :=
    nullable_eq x (fun _ => rfl) nofun
  rw [shape, object_eq h.kind]
  refine seq_eq (seq_eq (seq_eq (seq_eq (seq_eq (seq_eq (seq_eq (map_eq ?kind) ?variant) ?message)
    ?severity) ?line) ?column) ?endLine) ?endColumn
  case kind => exact required_eq h.kind rfl
  case variant => exact optional_eq h.variant (hword _)
  case message => exact optional_eq h.message rfl
  case severity => exact optional_eq h.severity (hword _)
  case line => exact optional_eq h.line rfl
  case column => exact optional_eq h.column rfl
  case endLine => exact optional_eq h.endLine (hnumber _)
  case endColumn => exact optional_eq h.endColumn (hnumber _)

theorem UnitScoreRequest.HeldBy.shape_eq {r : UnitScoreRequest} (h : r.HeldBy j) :
    shape j = .valid r := by
  rw [shape, object_eq h.linesOfCode]
  refine seq_eq (map_eq ?issues) ?linesOfCode
  case issues => exact optional_list_eq (fun _ _ h => h.shape_eq) h.issues
  case linesOfCode => exact optional_eq h.linesOfCode (naturalInteger_eq h.lines_nonneg)

theorem UnitInput.HeldBy.shape_eq {u : UnitInput} (h : u.HeldBy j) : shape j = .valid u := by
  rw [shape, object_eq h.unitId]
  refine seq_eq (seq_eq (seq_eq (seq_eq (map_eq ?issues) ?linesOfCode) ?complexity) ?unitId)
    ?unitName
  case issues => exact optional_list_eq (fun _ _ h => h.shape_eq) h.issues
  case linesOfCode => exact optional_eq h.linesOfCode (naturalInteger_eq h.lines_nonneg)
  case complexity => exact optional_eq h.complexity (naturalDouble_eq h.complexity_nonneg)
  case unitId => exact optional_eq h.unitId rfl
  case unitName => exact optional_eq h.unitName rfl

theorem GroupScoreRequest.HeldBy.shape_eq {r : GroupScoreRequest} (h : r.HeldBy j) :
    shape j = .valid r := by
  rw [shape, object_eq h.groupId]
  refine seq_eq (seq_eq (map_eq ?units) ?groupId) ?groupName
  case units => exact optional_list_eq (fun _ _ h => h.shape_eq) h.units
  case groupId => exact optional_eq h.groupId rfl
  case groupName => exact optional_eq h.groupName rfl

theorem GroupInput.HeldBy.shape_eq {g : GroupInput} (h : g.HeldBy j) : shape j = .valid g := by
  rw [shape, object_eq h.groupId]
  refine seq_eq (seq_eq (seq_eq (seq_eq (seq_eq (seq_eq (seq_eq (seq_eq (map_eq ?groupId)
    ?groupName) ?totalIssues) ?withIssues) ?withCriticalIssues) ?totalUnits) ?kinds) ?quality)
    ?complexity
  case groupId => exact optional_eq h.groupId rfl
  case groupName => exact optional_eq h.groupName rfl
  case totalIssues => exact optional_eq h.totalIssues rfl
  case withIssues => exact optional_eq h.unitsWithIssues rfl
  case withCriticalIssues => exact optional_eq h.unitsWithCriticalIssues rfl
  case totalUnits => exact optional_eq h.totalUnits rfl
  case kinds => exact optional_eq h.distinctKinds (list_string _)
  case quality => exact optional_eq h.qualityScore rfl
  case complexity => exact optional_eq h.complexityScore rfl

theorem SystemScoreRequest.HeldBy.shape_eq {r : SystemScoreRequest} (h : r.HeldBy j) :
    shape j = .valid r := by
  obtain ⟨items, hget, hitems⟩ := h
  rw [shape, object_eq hget]
  exact map_eq (optional_list_eq (fun _ _ h => h.shape_eq) ⟨items, hget, hitems⟩)

end

theorem Service.accepted_eq {α : Type} {part : String} {checked : Checked α} {a : α}
    (h : checked = .valid a) : accepted part checked = .ok a := by
  rw [h]
  rfl

/-- **Decoding.** The program takes the fields of an object over as they are. -/
theorem Service.decoding_carriesFields : decoding.CarriesFields where
  unit _ _ h := accepted_eq h.shape_eq
  group _ _ h := accepted_eq h.shape_eq
  system _ _ h := accepted_eq h.shape_eq

end FlowLint
