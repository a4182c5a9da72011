import FlowLint.Proofs.Conversion
import FlowLint.Proofs.Totality

/-!
# Numbers that are not below zero

Sums and products of numbers that are not below zero are not below zero either, also where they
overflow or are no numbers. What is rounded to hundredths keeps its sign, so that a complexity can
be handed in again as one.

* `Binary64.NonNeg` and `Number.NonNeg`: what is not below zero. A NaN is not.
* `Number.nonNeg_of_plus`, `Number.nonNeg_of_times`, `Number.nonNeg_of_roundHalfUp`: the operations.
* `Complexity.nonNeg_of_ofSource`: the complexity of a source.
-/

namespace FlowLint

open Script (bind_eq_ok)

/-! ## Doubles -/

namespace Binary64

/-- The double is not below zero. -/
def NonNeg (x : Binary64) : Prop :=
  x.lt (finite 0) = false

variable {x y : Binary64} {v : Rat}

theorem nonNeg_finite : (finite v).NonNeg ↔ 0 ≤ v := by
  have hlt : (finite v).lt (finite 0) = decide (v < 0) := rfl
  rw [NonNeg, hlt, decide_eq_false_iff_not, not_lt]

theorem nonNeg_infinite {negative : Bool} : (infinite negative).NonNeg ↔ negative = false := by
  rfl

theorem nonNeg_negativeZero : negativeZero.NonNeg := by
  simp [NonNeg, lt, toRat?]

theorem nonNeg_nan : nan.NonNeg := by
  rfl

theorem nonNeg_zero (negative : Bool) : (zero negative).NonNeg := by
  cases negative with
  | false => exact nonNeg_finite.mpr (le_refl 0)
  | true => exact nonNeg_negativeZero

theorem nonNeg_ofRat (hv : 0 ≤ v) : (ofRat v).NonNeg := by
  by_cases hzero : v = 0
  · rw [hzero, ofRat_zero]
    exact nonNeg_finite.mpr (le_refl 0)
  · have hpos : 0 < v := lt_of_le_of_ne hv (Ne.symm hzero)
    have hnot : ¬ v < 0 := not_lt.mpr hv
    simp only [ofRat, hzero, hnot, if_false, decide_false]
    split
    · exact nonNeg_infinite.mpr rfl
    · split
      · exact nonNeg_finite.mpr (le_refl 0)
      · exact nonNeg_finite.mpr (roundPositive_nonneg hpos)

theorem NonNeg.add (hx : x.NonNeg) (hy : y.NonNeg) : (x.add y).NonNeg := by
  cases x with
  | nan => exact nonNeg_nan
  | infinite s =>
    obtain rfl := nonNeg_infinite.mp hx
    cases y with
    | infinite t =>
      obtain rfl := nonNeg_infinite.mp hy
      exact nonNeg_infinite.mpr rfl
    | nan => exact nonNeg_nan
    | _ => exact nonNeg_infinite.mpr rfl
  | negativeZero =>
    cases y with
    | infinite t => exact hy
    | nan => exact nonNeg_nan
    | negativeZero => exact nonNeg_negativeZero
    | finite w => exact nonNeg_ofRat (add_nonneg (le_refl 0) (nonNeg_finite.mp hy))
  | finite v =>
    have hv := nonNeg_finite.mp hx
    cases y with
    | infinite t => exact hy
    | nan => exact nonNeg_nan
    | negativeZero => exact nonNeg_ofRat (add_nonneg hv (le_refl 0))
    | finite w => exact nonNeg_ofRat (add_nonneg hv (nonNeg_finite.mp hy))

/-- What is not below zero is no number, infinite, or has a value that is not below zero. -/
theorem NonNeg.cases (hx : x.NonNeg) :
    x = nan ∨ x = infinite false ∨ x = negativeZero ∨ ∃ v, 0 ≤ v ∧ x = finite v := by
  cases x with
  | nan => exact .inl rfl
  | infinite s => exact .inr (.inl (congrArg infinite (nonNeg_infinite.mp hx)))
  | negativeZero => exact .inr (.inr (.inl rfl))
  | finite v => exact .inr (.inr (.inr ⟨v, nonNeg_finite.mp hx, rfl⟩))

/-- A product with its sign, as multiplication gives it. -/
theorem nonNeg_product (negative : Bool) (hv : 0 ≤ v) :
    (if v = 0 then zero negative else ofRat v).NonNeg := by
  split
  · exact nonNeg_zero negative
  · exact nonNeg_ofRat hv

/-- An infinite double times another one. -/
theorem nonNeg_infinite_mul (hv : 0 ≤ v) :
    ((infinite false).mul (finite v)).NonNeg ∧ ((finite v).mul (infinite false)).NonNeg := by
  have hsign : decide (v < 0) = false := decide_eq_false (not_lt.mpr hv)
  simp only [mul, isNegative, hsign]
  constructor
  all_goals
    split
    · exact nonNeg_nan
    · exact nonNeg_infinite.mpr rfl

theorem NonNeg.mul (hx : x.NonNeg) (hy : y.NonNeg) : (x.mul y).NonNeg := by
  rcases hx.cases with rfl | rfl | rfl | ⟨v, hv, rfl⟩
  · exact nonNeg_nan
  · rcases hy.cases with rfl | rfl | rfl | ⟨w, hw, rfl⟩
    · exact nonNeg_nan
    · exact nonNeg_infinite.mpr rfl
    · exact nonNeg_nan
    · exact (nonNeg_infinite_mul hw).1
  · rcases hy.cases with rfl | rfl | rfl | ⟨w, hw, rfl⟩
    · exact nonNeg_nan
    · exact nonNeg_nan
    · exact nonNeg_product _ (mul_nonneg (le_refl 0) (le_refl 0))
    · exact nonNeg_product _ (mul_nonneg (le_refl 0) hw)
  · rcases hy.cases with rfl | rfl | rfl | ⟨w, hw, rfl⟩
    · exact nonNeg_nan
    · exact (nonNeg_infinite_mul hv).2
    · exact nonNeg_product _ (mul_nonneg hv (le_refl 0))
    · exact nonNeg_product _ (mul_nonneg hv hw)

end Binary64

/-! ## Numbers -/

namespace Number

/-- The number is not below zero. -/
def NonNeg : Number → Prop
  | int n => 0 ≤ n
  | float x => x.NonNeg

variable {x y z : Number}

theorem nonNeg_whole {n : Int} (hn : 0 ≤ n) : (whole n : Number).NonNeg :=
  hn

theorem nonNeg_decimal {q : Rat} (hq : 0 ≤ q) : (decimal q : Number).NonNeg :=
  Binary64.nonNeg_ofRat hq

theorem nonNeg_of_toBinary64 {d : Binary64} (hx : x.NonNeg) (h : x.toBinary64 = .ok d) :
    d.NonNeg := by
  cases x with
  | float x =>
    cases h
    exact hx
  | int n =>
    have hd : Binary64.ofRat n = d := by
      rw [toBinary64, Binary64.ofInt] at h
      split at h
      · cases h
      · exact Except.ok.inj h
    exact hd ▸ Binary64.nonNeg_ofRat (Int.cast_nonneg hx)

theorem nonNeg_of_combine {onInts : Int → Int → Int} {onDoubles : Binary64 → Binary64 → Binary64}
    (hints : ∀ a b, 0 ≤ a → 0 ≤ b → 0 ≤ onInts a b)
    (hdoubles : ∀ a b : Binary64, a.NonNeg → b.NonNeg → (onDoubles a b).NonNeg) (hx : x.NonNeg)
    (hy : y.NonNeg) (h : combine onInts onDoubles x y = .ok z) : z.NonNeg := by
  -- Two integers stay integers; in the other cases both become doubles first.
  have hboth (h : (do return float (onDoubles (← x.toBinary64) (← y.toBinary64))) = .ok z) :
      z.NonNeg := by
    obtain ⟨a, ha, h⟩ := bind_eq_ok.mp h
    obtain ⟨b, hb, h⟩ := bind_eq_ok.mp h
    cases h
    exact hdoubles a b (nonNeg_of_toBinary64 hx ha) (nonNeg_of_toBinary64 hy hb)
  cases x with
  | float a => exact hboth h
  | int a =>
    cases y with
    | float b => exact hboth h
    | int b =>
      cases h
      exact hints a b hx hy

theorem nonNeg_of_plus (hx : x.NonNeg) (hy : y.NonNeg)
    (h : plus x y = Except.ok (ε := Fault) z) : z.NonNeg :=
  nonNeg_of_combine (fun _ _ => Int.add_nonneg) (fun _ _ => Binary64.NonNeg.add) hx hy h

theorem nonNeg_of_times (hx : x.NonNeg) (hy : y.NonNeg)
    (h : times x y = Except.ok (ε := Fault) z) : z.NonNeg :=
  nonNeg_of_combine (fun _ _ => Int.mul_nonneg) (fun _ _ => Binary64.NonNeg.mul) hx hy h

theorem nonNeg_of_floor {n : Int} (hx : x.NonNeg)
    (h : Arithmetic.floor x = Except.ok (ε := Fault) n) : 0 ≤ n := by
  cases x with
  | int m =>
    cases h
    exact hx
  | float x =>
    cases x with
    | finite v =>
      cases h
      exact Rat.le_floor_iff.mpr (Binary64.nonNeg_finite.mp hx)
    | negativeZero =>
      cases h
      exact le_refl 0
    | _ => cases h

theorem nonNeg_of_quotient {n : Int} {d : Binary64} (hn : 0 ≤ n) (h : quotient n 100 = .ok d) :
    d.NonNeg := by
  have hhundred : ¬(100 : Int) = 0 := by decide
  rw [quotient, if_neg hhundred] at h
  split at h
  · cases h
    exact Binary64.nonNeg_zero _
  · have hd : Binary64.ofRat ((n : Rat) / ((100 : Int) : Rat)) = d := by
      split at h
      · cases h
      · exact Except.ok.inj h
    exact hd ▸ Binary64.nonNeg_ofRat (div_nonneg (Int.cast_nonneg hn) (by norm_num))

/-- What is rounded to hundredths keeps its sign, and becomes a double. -/
theorem nonNeg_of_roundHalfUp (hx : x.NonNeg)
    (h : roundHalfUp 2 x = Except.ok (ε := Fault) y) : ∃ d : Binary64, y = float d ∧ d.NonNeg := by
  obtain ⟨scaled, hscaled, h⟩ := bind_eq_ok.mp h
  obtain ⟨shifted, hshifted, h⟩ := bind_eq_ok.mp h
  obtain ⟨n, hfloor, h⟩ := bind_eq_ok.mp h
  have hfactor : (powerOfTen 2 : Number).NonNeg := nonNeg_whole (n := 100) (by decide)
  have hhalf : (decimal (1 / 2) : Number).NonNeg := nonNeg_decimal (by norm_num)
  have hn : 0 ≤ n := by
    refine nonNeg_of_floor ?_ hfloor
    exact nonNeg_of_plus (nonNeg_of_times hx hfactor hscaled) hhalf hshifted
  have hquotient : (float <$> quotient n 100 : Except Fault Number) = .ok y := h
  cases hq : quotient n 100 with
  | error fault =>
    rw [hq] at hquotient
    cases hquotient
  | ok d =>
    rw [hq] at hquotient
    cases hquotient
    exact ⟨d, rfl, nonNeg_of_quotient hn hq⟩

end Number

/-! ## Complexity -/

namespace Complexity

/-- A loop keeps what each of its steps keeps, if it comes to an end. -/
theorem of_forIn_ok {ε α β : Type} {Q : α → Prop} {xs : List β}
    {body : β → α → Except ε (ForInStep α)} {a b : α}
    (hbody : ∀ a x s, Q a → body x a = .ok s → ∃ b, s = .yield b ∧ Q b) (ha : Q a)
    (h : ForIn.forIn xs a body = .ok b) : Q b := by
  induction xs generalizing a with
  | nil =>
    cases h
    exact ha
  | cons x xs ih =>
    rw [List.forIn_cons] at h
    obtain ⟨s, hs, h⟩ := bind_eq_ok.mp h
    obtain ⟨c, rfl, hc⟩ := hbody a x s ha hs
    exact ih hc h

theorem nonNeg_of_addFactor {factor : Rat} {total z : Number} {count : Int} (hfactor : 0 ≤ factor)
    (htotal : total.NonNeg) (hcount : 0 ≤ count)
    (h : addFactor factor total count = Except.ok (ε := Fault) z) : z.NonNeg := by
  obtain ⟨part, hpart, h⟩ := bind_eq_ok.mp h
  have hpart := Number.nonNeg_of_times (Number.nonNeg_whole hcount)
    (Number.nonNeg_decimal hfactor) hpart
  exact Number.nonNeg_of_plus htotal hpart h

theorem nonNeg_of_ofText {cs : List Char} {z : Number}
    (h : ofText cs = Except.ok (ε := Fault) z) : ∃ d : Binary64, z = .float d ∧ d.NonNeg := by
  obtain ⟨lines, hlines, h⟩ := bind_eq_ok.mp h
  obtain ⟨branches, hbranches, h⟩ := bind_eq_ok.mp h
  obtain ⟨nested, hnested, h⟩ := bind_eq_ok.mp h
  obtain ⟨total, htotal, h⟩ := bind_eq_ok.mp h
  have hlines : lines.NonNeg := Number.nonNeg_of_times (Number.nonNeg_whole (Int.natCast_nonneg _))
    (Number.nonNeg_decimal (by norm_num)) hlines
  have hbranches : branches.NonNeg := by
    refine of_forIn_ok (fun a count s ha hs => ?_) hlines hbranches
    obtain ⟨b, hb, hs⟩ := bind_eq_ok.mp hs
    cases hs
    exact ⟨b, rfl, nonNeg_of_addFactor (by norm_num) ha (Int.natCast_nonneg _) hb⟩
  have hdeepest : 0 ≤ deepest cs := (deepestFrom_bounds cs (Int.le_refl 0)).1
  have hnested := nonNeg_of_addFactor (by norm_num) hbranches hdeepest hnested
  have htotal := nonNeg_of_addFactor (by norm_num) hnested (Int.natCast_nonneg _) htotal
  exact Number.nonNeg_of_roundHalfUp htotal h

/-- **Complexity.** The complexity of a source is a double that is not below zero. -/
theorem nonNeg_of_ofSource {source : Json} {z : Number}
    (h : ofSource source = Except.ok (ε := Fault) z) : ∃ d : Binary64, z = .float d ∧ d.NonNeg := by
  have hnone (h : Except.ok (ε := Fault) (decimal 0 : Number) = .ok z) :
      ∃ d : Binary64, z = .float d ∧ d.NonNeg := by
    cases h
    exact ⟨_, rfl, Binary64.nonNeg_ofRat (le_refl 0)⟩
  cases source with
  | string text =>
    rw [ofSource] at h
    split at h
    · exact hnone h
    · exact nonNeg_of_ofText h
  | _ => exact hnone h

end Complexity

end FlowLint
