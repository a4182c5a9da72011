import FlowLint.Proofs.Lines
import Mathlib.Data.List.Basic
import Mathlib.Data.List.Pairwise
import Mathlib.Tactic.ByContra

/-!
# The longest runs of blank lines

Runs are gathered from the last line to the first, and each blank line either makes the next run
longer or starts one of its own.

* `Run.exists_has_extend` and `Run.precedes_extend`: what one more blank line does to the runs
  after it. Between two runs there always is a line that is in neither.
* `Run.mem_iff_longest`: runs that keep apart in this way are the longest stretches of the lines
  that they hold.
* `blankRuns_exact`: the runs of blank lines are the longest ones, in the order of their lines.
-/

namespace FlowLint

/-- Of two members of a list one comes before the other. -/
theorem rel_or_rel_of_pairwise {α : Type} {R : α → α → Prop} {l : List α} (h : l.Pairwise R)
    {a b : α} (ha : a ∈ l) (hb : b ∈ l) (hne : a ≠ b) : R a b ∨ R b a := by
  have hsymm : Std.Symm fun a b => R a b ∨ R b a := ⟨fun _ _ => Or.symm⟩
  have heither : l.Pairwise fun a b => R a b ∨ R b a := h.imp .inl
  exact heither.forall ha hb hne

namespace Run

/-- A run holds a line. -/
def Has (r : Run) (n : Nat) : Prop :=
  r.1 ≤ n ∧ n ≤ r.2

/-- A run ends before another one, and the line after it is before that one too. -/
def Precedes (r r' : Run) : Prop :=
  r.2 + 1 < r'.1

variable {number n : Nat} {runs : List Run}

/-- A line that is put in front is added to those that the runs hold. -/
theorem exists_has_extend (hruns : ∀ r ∈ runs, r.1 ≤ r.2) :
    (∃ r ∈ extend number runs, r.Has n) ↔ n = number ∨ ∃ r ∈ runs, r.Has n := by
  have hone : Has (number, number) n ↔ n = number := by
    simp only [Has]
    omega
  fun_cases extend number runs
  case case1 => simp [hone]
  case case2 r rest hnext =>
    have hle := hruns r List.mem_cons_self
    have hjoined : Has (number, r.2) n ↔ n = number ∨ r.Has n := by
      simp only [Has]
      omega
    rw [List.exists_mem_cons_iff, List.exists_mem_cons_iff, hjoined, or_assoc]
  case case3 r rest _ => rw [List.exists_mem_cons_iff, hone]

/-- With a line in front of them, runs still keep apart. -/
theorem precedes_extend (hlow : ∀ r ∈ runs, number < r.1) (hruns : ∀ r ∈ runs, r.1 ≤ r.2)
    (hapart : runs.Pairwise Precedes) : (extend number runs).Pairwise Precedes := by
  fun_cases extend number runs
  case case1 => exact List.pairwise_singleton ..
  case case2 r rest _ =>
    obtain ⟨hfirst, hrest⟩ := List.pairwise_cons.mp hapart
    exact List.pairwise_cons.mpr ⟨hfirst, hrest⟩
  case case3 r rest hnext =>
    refine List.pairwise_cons.mpr ⟨fun r' hr' => ?_, hapart⟩
    have hfar : number + 1 < r.1 := Nat.lt_of_le_of_ne (hlow r List.mem_cons_self) (Ne.symm hnext)
    rcases List.mem_cons.mp hr' with rfl | hr'
    · exact hfar
    · have hle := hruns r List.mem_cons_self
      have hprec : r.2 + 1 < r'.1 := List.rel_of_pairwise_cons hapart hr'
      show number + 1 < r'.1
      omega

/-- Of two runs that keep apart, one is before the other, with a line between them. -/
theorem eq_or_apart (hapart : runs.Pairwise Precedes) {r r' : Run} (hr : r ∈ runs)
    (hr' : r' ∈ runs) : r = r' ∨ r.2 + 1 < r'.1 ∨ r'.2 + 1 < r.1 :=
  or_iff_not_imp_left.mpr (rel_or_rel_of_pairwise hapart hr hr')

/-- Runs that keep apart are the longest stretches of the lines that they hold. -/
theorem mem_iff_longest {p : Nat → Prop} (hruns : ∀ r ∈ runs, r.1 ≤ r.2)
    (hapart : runs.Pairwise Precedes) (hp : ∀ n, p n ↔ ∃ r ∈ runs, r.Has n) {a b : Nat} :
    (a, b) ∈ runs ↔
      a ≤ b ∧ (∀ n, a ≤ n → n ≤ b → p n) ∧ (∀ n, n + 1 = a → ¬ p n) ∧ ¬ p (b + 1) := by
  constructor
  · intro hmem
    have hle : a ≤ b := hruns _ hmem
    refine ⟨hle, fun n ha hb => (hp n).mpr ⟨_, hmem, ha, hb⟩, ?_, ?_⟩
    · rintro n rfl hn
      obtain ⟨r, hr, hlow, hhigh⟩ := (hp n).mp hn
      rcases eq_or_apart hapart hmem hr with rfl | h | h <;> dsimp only at * <;> omega
    · intro hn
      obtain ⟨r, hr, hlow, hhigh⟩ := (hp (b + 1)).mp hn
      rcases eq_or_apart hapart hmem hr with rfl | h | h <;> dsimp only at * <;> omega
  · rintro ⟨hle, hall, hbefore, hafter⟩
    obtain ⟨r, hr, hlow, hhigh⟩ := (hp a).mp (hall a (Nat.le_refl a) hle)
    -- The run that holds `a` starts there: were it longer, the line before `a` would be in it.
    have hstart : r.1 = a := by
      by_contra hne
      exact hbefore (a - 1) (by omega) ((hp _).mpr ⟨r, hr, by omega, by omega⟩)
    have hend : r.2 ≤ b := by
      by_contra hlt
      exact hafter ((hp _).mpr ⟨r, hr, by omega, by omega⟩)
    -- Were it shorter, the line after it would be in another run, with none between the two.
    have hstop : r.2 = b := by
      by_contra hne
      obtain ⟨r', hr', hlow', hhigh'⟩ := (hp (r.2 + 1)).mp (hall _ (by omega) (by omega))
      rcases eq_or_apart hapart hr hr' with rfl | h | h <;> omega
    rwa [← hstart, ← hstop]

end Run

/-! ## Blank lines -/

/-- Line `n` is blank, where the first line has number `first`. -/
abbrev BlankAt (first : Nat) (lines : List Line) (n : Nat) : Prop :=
  LineAt (·.isBlank) first lines n

/-- The runs hold the blank lines and no others. -/
theorem blankAt_iff {first : Nat} {lines : List Line} {n : Nat} :
    BlankAt first lines n ↔ ∃ r ∈ blankRunsFrom first lines, r.Has n := by
  induction lines generalizing first with
  | nil =>
    refine iff_of_false lineAt_nil ?_
    rintro ⟨r, hr, -⟩
    cases hr
  | cons line rest ih =>
    have hrest : LineAt (·.isBlank) (first + 1) rest n ↔ _ := ih
    rw [BlankAt, lineAt_cons, hrest, blankRunsFrom]
    split
    case isTrue hblank =>
      rw [Run.exists_has_extend le_of_mem_blankRunsFrom, and_iff_left hblank]
    case isFalse hblank => rw [or_iff_right fun h => hblank h.2]

theorem precedes_blankRunsFrom (first : Nat) (lines : List Line) :
    (blankRunsFrom first lines).Pairwise Run.Precedes := by
  induction lines generalizing first with
  | nil => exact .nil
  | cons line rest ih =>
    rw [blankRunsFrom]
    split
    · refine Run.precedes_extend (fun r hr => ?_) le_of_mem_blankRunsFrom (ih (first + 1))
      exact (bounds_of_mem_blankRunsFrom r hr).1
    · exact ih (first + 1)

/-- **Blank lines.** The runs of at least `minLength` blank lines are the stretches of so many lines
or more that are all blank and that no blank line continues on either side. They are listed in the
order of their lines and keep apart, so that none is listed twice. -/
theorem blankRuns_exact (minLength : Int) (lines : List Line) :
    (∀ a b : Nat, (a, b) ∈ blankRuns minLength lines ↔
      1 ≤ a ∧ a ≤ b ∧ b ≤ lines.length ∧ minLength ≤ (b : Int) - a + 1 ∧
        (∀ n, a ≤ n → n ≤ b → BlankAt 1 lines n) ∧
        ¬ BlankAt 1 lines (a - 1) ∧ ¬ BlankAt 1 lines (b + 1)) ∧
    (blankRuns minLength lines).Pairwise fun r r' => r.2 + 1 < r'.1 := by
  have hapart := precedes_blankRunsFrom 1 lines
  refine ⟨fun a b => ?_, hapart.filter _⟩
  rw [blankRuns, List.mem_filter,
    Run.mem_iff_longest le_of_mem_blankRunsFrom hapart fun _ => blankAt_iff]
  have hlength : Run.length (a, b) = b + 1 - a := rfl
  rw [hlength, decide_eq_true_iff]
  constructor
  · rintro ⟨⟨hle, hall, hbefore, hafter⟩, hlength⟩
    have hfirst := (hall a (Nat.le_refl a) hle).bounds
    have hlast := (hall b hle (Nat.le_refl b)).bounds
    exact ⟨hfirst.1, hle, by omega, by omega, hall, hbefore (a - 1) (by omega), hafter⟩
  · rintro ⟨hpos, hle, -, hlength, hall, hbefore, hafter⟩
    refine ⟨⟨hle, hall, ?_, hafter⟩, by omega⟩
    rintro n rfl
    exact hbefore

end FlowLint
