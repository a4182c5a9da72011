import FlowLint.Number.Mixed
import FlowLint.Proofs.Rounding
import Mathlib.Data.List.Forall2

/-!
# Calculations that do not fail

An operation on numbers fails where a value is beyond all doubles. Here every result gets a bound
on its size, so that the next operation is known not to fail. A bound is a power of two. A product
adds the exponents, a sum of two numbers takes one more, and a running sum of doubles stays below
its bound however many terms it has, since a term that is too small is lost in rounding.

* `Gives`: a computation succeeds, and its result has a property.
* `Number.Within`, `Number.FloatWithin`: bounds on the size of a number and of a double.
* `gives_plus`, `gives_minus`, `gives_times`, `gives_dividedBy`, `gives_floor`: the bounds of the
  operations.
* `gives_sumOf`, `gives_roundHalfUp`: the bounds of sums and of rounded numbers.
-/

namespace FlowLint

/-! ## Computations that succeed -/

/-- The computation succeeds, and its result has a property. -/
def Gives {ε α : Type} (c : Except ε α) (Q : α → Prop) : Prop :=
  ∃ a, c = .ok a ∧ Q a

namespace Gives

variable {ε ε' α β : Type} {c : Except ε α} {Q Q' : α → Prop}

theorem pure {a : α} (h : Q a) : Gives (Pure.pure a : Except ε α) Q :=
  ⟨a, rfl, h⟩

theorem bind {k : α → Except ε β} {R : β → Prop} (hc : Gives c Q)
    (hk : ∀ a, Q a → Gives (k a) R) : Gives (c >>= k) R := by
  obtain ⟨a, rfl, ha⟩ := hc
  exact hk a ha

theorem mono (hc : Gives c Q) (h : ∀ a, Q a → Q' a) : Gives c Q' := by
  obtain ⟨a, hok, ha⟩ := hc
  exact ⟨a, hok, h a ha⟩

theorem mapError {f : ε → ε'} (hc : Gives c Q) : Gives (c.mapError f) Q := by
  obtain ⟨a, rfl, ha⟩ := hc
  exact ⟨a, rfl, ha⟩

/-- A loop keeps what each of its steps keeps. -/
theorem foldlM {xs : List β} {step : α → β → Except ε α}
    (hstep : ∀ a, Q a → ∀ x ∈ xs, Gives (step a x) Q) {a : α} (ha : Q a) :
    Gives (xs.foldlM step a) Q := by
  induction xs generalizing a with
  | nil => exact Gives.pure ha
  | cons x xs ih =>
    rw [List.foldlM_cons]
    apply Gives.bind (hstep a ha x List.mem_cons_self)
    intro b hb
    exact ih (fun a ha y hy => hstep a ha y (List.mem_cons_of_mem x hy)) hb

/-- The same for a loop that is written with a variable. -/
theorem forIn {xs : List β} {body : β → α → Except ε (ForInStep α)}
    (hbody : ∀ a, Q a → ∀ x ∈ xs, Gives (body x a) fun s => ∃ b, s = .yield b ∧ Q b) {a : α}
    (ha : Q a) : Gives (ForIn.forIn xs a body) Q := by
  induction xs generalizing a with
  | nil => exact Gives.pure ha
  | cons x xs ih =>
    rw [List.forIn_cons]
    apply Gives.bind (hbody a ha x List.mem_cons_self)
    intro s ⟨b, hs, hb⟩
    rw [hs]
    exact ih (fun a ha y hy => hbody a ha y (List.mem_cons_of_mem x hy)) hb

/-- The results of a loop over a list are related to its items, one by one. -/
theorem mapM {R : β → α → Prop} {xs : List β} {f : β → Except ε α}
    (hf : ∀ x ∈ xs, Gives (f x) (R x)) : Gives (xs.mapM f) (List.Forall₂ R xs) := by
  induction xs with
  | nil =>
    rw [List.mapM_nil]
    exact Gives.pure .nil
  | cons x xs ih =>
    rw [List.mapM_cons]
    apply Gives.bind (hf x List.mem_cons_self)
    intro y hy
    apply Gives.bind (ih fun x' hx' => hf x' (List.mem_cons_of_mem x hx'))
    intro ys hys
    exact Gives.pure (.cons hy hys)

end Gives

theorem forall_mem_of_forall₂_right {α β : Type} {R : α → β → Prop} {p : β → Prop} {as : List α}
    {bs : List β} (h : List.Forall₂ R as bs) (hR : ∀ a b, R a b → p b) : ∀ b ∈ bs, p b := by
  induction h with
  | nil => exact fun b hb => absurd hb List.not_mem_nil
  | cons hab _ ih => exact List.forall_mem_cons.mpr ⟨hR _ _ hab, ih⟩

/-! ## Doubles -/

namespace Binary64

variable {x y : Binary64} {a b : Rat} {j k : Nat}

/-- The double is finite, and its size is at most a power of two. -/
def Within (k : Nat) (x : Binary64) : Prop :=
  ∃ v, x.toRat? = some v ∧ |v| ≤ twoPow k

theorem Within.mono (hx : x.Within j) (h : j ≤ k) : x.Within k := by
  obtain ⟨v, hv, hle⟩ := hx
  exact ⟨v, hv, hle.trans (twoPow_le_twoPow (Int.ofNat_le.mpr h))⟩

/-- Rounding keeps a bound. -/
theorem within_ofRat {q : Rat} (hk : k < 1024) (h : |q| ≤ twoPow k) : (ofRat q).Within k := by
  apply exists_ofRat_le (twoPow_pos _).le
  · exact twoPow_lt_twoPow (by omega)
  · intro hq
    exact roundPositive_le (abs_pos.mpr hq) (by omega) h

theorem toRat?_neg (hx : x.toRat? = some a) : x.neg.toRat? = some (-a) := by
  cases x with
  | finite v =>
    obtain rfl : v = a := Option.some.inj hx
    by_cases hv : v = 0
    · simp [neg, hv, toRat?]
    · simp [neg, hv, toRat?]
  | negativeZero =>
    cases hx
    rfl
  | infinite _ => cases hx
  | nan => cases hx

theorem toRat?_zero (negative : Bool) : (zero negative).toRat? = some 0 := by
  cases negative <;> rfl

/-- A sum of finite doubles has the value of the rounded sum. -/
theorem toRat?_add (hx : x.toRat? = some a) (hy : y.toRat? = some b) :
    (x.add y).toRat? = (ofRat (a + b)).toRat? := by
  have hzeros : negativeZero.toRat? = (ofRat (0 + 0)).toRat? := by
    rw [add_zero, ofRat_zero]
    rfl
  cases x <;> cases hx <;> cases y <;> cases hy <;> first | rfl | exact hzeros

/-- The sign that a product or a quotient has where it is zero does not change its value. -/
theorem toRat?_signedRound (negative : Bool) (q : Rat) :
    (if q = 0 then zero negative else ofRat q).toRat? = (ofRat q).toRat? := by
  split
  · rename_i h
    rw [h, ofRat_zero, toRat?_zero]
    rfl
  · rfl

theorem toRat?_mul (hx : x.toRat? = some a) (hy : y.toRat? = some b) :
    (x.mul y).toRat? = (ofRat (a * b)).toRat? := by
  cases x <;> cases hx <;> cases y <;> cases hy <;> exact toRat?_signedRound _ _

theorem toRat?_div (hx : x.toRat? = some a) (hy : y.toRat? = some b) :
    (x.div y).toRat? = (ofRat (a / b)).toRat? := by
  cases x <;> cases hx <;> cases y <;> cases hy <;> exact toRat?_signedRound _ _

/-- A double with the value of a rounded number has its bound. -/
theorem within_of_toRat?_eq {q : Rat} (h : x.toRat? = (ofRat q).toRat?) (hk : k < 1024)
    (hq : |q| ≤ twoPow k) : x.Within k := by
  obtain ⟨v, hv, hle⟩ := within_ofRat hk hq
  exact ⟨v, h.trans hv, hle⟩

theorem twoPow_succ (k : Nat) : twoPow (k + 1 : Nat) = twoPow k + twoPow k := by
  rw [Nat.cast_succ, twoPow_add, show twoPow 1 = 2 by decide]
  ring

theorem Within.add (hx : x.Within k) (hy : y.Within k) (hk : k + 1 < 1024) :
    (x.add y).Within (k + 1) := by
  obtain ⟨a, ha, hale⟩ := hx
  obtain ⟨b, hb, hble⟩ := hy
  apply within_of_toRat?_eq (toRat?_add ha hb) hk
  rw [twoPow_succ]
  exact (abs_add_le a b).trans (add_le_add hale hble)

theorem Within.sub (hx : x.Within k) (hy : y.Within k) (hk : k + 1 < 1024) :
    (x.sub y).Within (k + 1) := by
  obtain ⟨b, hb, hble⟩ := hy
  apply Within.add hx ⟨-b, toRat?_neg hb, ?_⟩ hk
  rwa [abs_neg]

theorem Within.mul (hx : x.Within j) (hy : y.Within k) (hk : j + k < 1024) :
    (x.mul y).Within (j + k) := by
  obtain ⟨a, ha, hale⟩ := hx
  obtain ⟨b, hb, hble⟩ := hy
  apply within_of_toRat?_eq (toRat?_mul ha hb) hk
  rw [abs_mul, Nat.cast_add, twoPow_add]
  exact mul_le_mul hale hble (abs_nonneg b) (twoPow_pos _).le

theorem Within.div (hx : x.Within k) (hy : y.toRat? = some b) (hb : 1 ≤ b) (hk : k < 1024) :
    (x.div y).Within k := by
  obtain ⟨a, ha, hale⟩ := hx
  apply within_of_toRat?_eq (toRat?_div ha hy) hk
  rw [abs_div, abs_of_pos (zero_lt_one.trans_le hb)]
  exact (div_le_self (abs_nonneg a) hb).trans hale

/-- A running sum of doubles does not grow past its bound. -/
theorem Within.absorb (hx : x.Within (k + 54)) (hy : y.Within k) (hk : k + 54 < 1024) :
    (x.add y).Within (k + 54) := by
  obtain ⟨a, ha, hale⟩ := hx
  obtain ⟨b, hb, hble⟩ := hy
  have hrounded : (ofRat (a + b)).Within (k + 54) := by
    apply exists_ofRat_le (twoPow_pos _).le
    · exact twoPow_lt_twoPow (by omega)
    · intro hne
      apply roundPositive_le_of_le_add (abs_pos.mpr hne) (by omega)
      rw [show ((k + 54 : Nat) : Int) - 54 = k by omega]
      exact (abs_add_le a b).trans (add_le_add hale hble)
  obtain ⟨v, hv, hle⟩ := hrounded
  exact ⟨v, (toRat?_add ha hb).trans hv, hle⟩

end Binary64

/-! ## Numbers -/

namespace Number

variable {x y : Number} {j k : Nat}

/-- The number is finite, and its size is at most a power of two. -/
def Within (k : Nat) (x : Number) : Prop :=
  ∃ v, x.toRat? = some v ∧ |v| ≤ twoPow k

/-- The number is a double, and its size is at most a power of two. -/
def FloatWithin (k : Nat) (x : Number) : Prop :=
  ∃ y, x = float y ∧ y.Within k

theorem Within.mono (hx : x.Within j) (h : j ≤ k) : x.Within k := by
  obtain ⟨v, hv, hle⟩ := hx
  exact ⟨v, hv, hle.trans (twoPow_le_twoPow (Int.ofNat_le.mpr h))⟩

theorem FloatWithin.within (hx : x.FloatWithin k) : x.Within k := by
  obtain ⟨y, rfl, hy⟩ := hx
  exact hy

theorem FloatWithin.mono (hx : x.FloatWithin j) (h : j ≤ k) : x.FloatWithin k := by
  obtain ⟨y, rfl, hy⟩ := hx
  exact ⟨y, rfl, hy.mono h⟩

theorem within_whole {n : Int} (h : |n| ≤ 2 ^ k) : (whole n : Number).Within k := by
  refine ⟨n, rfl, ?_⟩
  rw [twoPow_natCast]
  exact_mod_cast h

theorem floatWithin_decimal {q : Rat} (hk : k < 1024) (h : |q| ≤ 2 ^ k) :
    (decimal q : Number).FloatWithin k := by
  refine ⟨_, rfl, Binary64.within_ofRat hk ?_⟩
  rwa [twoPow_natCast]

theorem ofInt_eq {n : Int} {v : Rat} (h : (Binary64.ofRat n).toRat? = some v) :
    Binary64.ofInt n = .ok (Binary64.ofRat n) := by
  unfold Binary64.ofInt
  split
  · rename_i heq
    rw [heq] at h
    cases h
  · rfl

/-- A number within the range of doubles can be turned into one. -/
theorem gives_toBinary64 (hx : x.Within k) (hk : k < 1024) :
    Gives x.toBinary64 (Binary64.Within k) := by
  cases x with
  | float x => exact Gives.pure hx
  | int n =>
    obtain ⟨v, hv, hle⟩ := hx
    cases hv
    obtain ⟨v, hv, hvle⟩ := Binary64.within_ofRat hk hle
    exact ⟨_, ofInt_eq hv, v, hv, hvle⟩

/-- The number is at least 1, and its size is at most a power of two. -/
def Divisor (k : Nat) (y : Number) : Prop :=
  ∃ b, y.toRat? = some b ∧ 1 ≤ b ∧ b ≤ twoPow k

theorem divisor_whole {n : Int} (hn : 1 ≤ n) (h : n ≤ 2 ^ k) : (whole n : Number).Divisor k := by
  refine ⟨n, rfl, by exact_mod_cast hn, ?_⟩
  rw [twoPow_natCast]
  exact_mod_cast h

/-- A divisor is still at least 1 as a double. -/
theorem Divisor.gives_toBinary64 (hy : y.Divisor k) (hk : k < 1024) :
    Gives y.toBinary64 fun z => ∃ b, z.toRat? = some b ∧ 1 ≤ b := by
  obtain ⟨b, hb, hone, hle⟩ := hy
  cases y with
  | float z => exact Gives.pure ⟨b, hb, hone⟩
  | int n =>
    cases hb
    have hpos : (0 : Rat) < n := zero_lt_one.trans_le hone
    have hrange : Binary64.roundPositive n < twoPow 1024 :=
      (Binary64.roundPositive_le hpos (by omega) hle).trans_lt (twoPow_lt_twoPow (by omega))
    have hvalue := Binary64.toRat?_ofRat_of_pos hpos hrange
    have hround : 1 ≤ Binary64.roundPositive n := by
      have h : twoPow 0 ≤ Binary64.roundPositive n := by
        apply Binary64.le_roundPositive (by omega)
        rwa [show twoPow 0 = 1 by decide]
      rwa [show twoPow 0 = 1 by decide] at h
    exact ⟨_, ofInt_eq hvalue, _, hvalue, hround⟩

/-! ## Operations -/

/-- An operation that is exact on integers keeps the bounds that it keeps on integers and on
doubles. -/
theorem gives_combine {onInts : Int → Int → Int} {onDoubles : Binary64 → Binary64 → Binary64}
    {m : Nat} (hx : x.Within j) (hy : y.Within k) (hj : j < 1024) (hk : k < 1024)
    (hints : ∀ a b : Int, |(a : Rat)| ≤ twoPow j → |(b : Rat)| ≤ twoPow k →
      |(onInts a b : Rat)| ≤ twoPow m)
    (hdoubles : ∀ a b : Binary64, a.Within j → b.Within k → (onDoubles a b).Within m) :
    Gives (combine onInts onDoubles x y) (Within m) := by
  have hmixed : Gives (do return float (onDoubles (← x.toBinary64) (← y.toBinary64))) (Within m) := by
    apply Gives.bind (gives_toBinary64 hx hj)
    intro a ha
    apply Gives.bind (gives_toBinary64 hy hk)
    intro b hb
    exact Gives.pure (hdoubles a b ha hb)
  cases x with
  | float a => cases y <;> exact hmixed
  | int a =>
    cases y with
    | float b => exact hmixed
    | int b =>
      obtain ⟨u, hu, hule⟩ := hx
      obtain ⟨v, hv, hvle⟩ := hy
      cases hu
      cases hv
      exact Gives.pure ⟨_, rfl, hints a b hule hvle⟩

theorem gives_plus (hx : x.Within k) (hy : y.Within k) (hk : k + 1 < 1024) :
    Gives (plus x y : Except Fault Number) (Within (k + 1)) := by
  apply gives_combine hx hy (by omega) (by omega)
  · intro a b ha hb
    rw [Int.cast_add, Binary64.twoPow_succ]
    exact (abs_add_le _ _).trans (add_le_add ha hb)
  · intro a b ha hb
    exact ha.add hb hk

theorem gives_minus (hx : x.Within k) (hy : y.Within k) (hk : k + 1 < 1024) :
    Gives (minus x y : Except Fault Number) (Within (k + 1)) := by
  apply gives_combine hx hy (by omega) (by omega)
  · intro a b ha hb
    rw [Int.cast_sub, Binary64.twoPow_succ]
    exact (abs_sub _ _).trans (add_le_add ha hb)
  · intro a b ha hb
    exact ha.sub hb hk

theorem gives_times (hx : x.Within j) (hy : y.Within k) (hk : j + k < 1024) :
    Gives (times x y : Except Fault Number) (Within (j + k)) := by
  apply gives_combine hx hy (by omega) (by omega)
  · intro a b ha hb
    rw [Int.cast_mul, abs_mul, Nat.cast_add, twoPow_add]
    exact mul_le_mul ha hb (abs_nonneg _) (twoPow_pos _).le
  · intro a b ha hb
    exact ha.mul hb hk

/-- A product with a double on the left is a double. -/
theorem gives_float_times (hx : x.FloatWithin j) (hy : y.Within k) (hk : j + k < 1024) :
    Gives (times x y : Except Fault Number) (FloatWithin (j + k)) := by
  obtain ⟨a, rfl, ha⟩ := hx
  have hfloat : (times (float a) y : Except Fault Number) =
      (do return float (a.mul (← y.toBinary64))) := by
    cases y <;> rfl
  rw [hfloat]
  apply Gives.bind (gives_toBinary64 hy (by omega))
  intro b hb
  exact Gives.pure ⟨_, rfl, ha.mul hb hk⟩

/-- The same with the double on the right. -/
theorem gives_times_of_float (hx : x.Within j) (hy : y.FloatWithin k) (hk : j + k < 1024) :
    Gives (times x y : Except Fault Number) (FloatWithin (j + k)) := by
  obtain ⟨b, rfl, hb⟩ := hy
  have hfloat : (times x (float b) : Except Fault Number) =
      (do return float ((← x.toBinary64).mul b)) := by
    cases x <;> rfl
  rw [hfloat]
  apply Gives.bind (gives_toBinary64 hx (by omega))
  intro a ha
  exact Gives.pure ⟨_, rfl, ha.mul hb hk⟩

/-- A term that is added to a running sum of doubles does not lift it past its bound. -/
theorem gives_plus_absorb (hx : x.FloatWithin (k + 54)) (hy : y.Within k) (hk : k + 54 < 1024) :
    Gives (plus x y : Except Fault Number) (FloatWithin (k + 54)) := by
  obtain ⟨a, rfl, ha⟩ := hx
  have hfloat : (plus (float a) y : Except Fault Number) =
      (do return float (a.add (← y.toBinary64))) := by
    cases y <;> rfl
  rw [hfloat]
  apply Gives.bind (gives_toBinary64 hy (by omega))
  intro b hb
  exact Gives.pure ⟨_, rfl, ha.absorb hb hk⟩

/-- A quotient of integers is rounded once. -/
theorem gives_quotient {a b : Int} (ha : |(a : Rat)| ≤ twoPow k) (hb : 1 ≤ b) (hk : k < 1024) :
    Gives (quotient a b) (Binary64.Within k) := by
  unfold quotient
  rw [if_neg (show ¬b = 0 by omega)]
  split
  · apply Gives.pure
    refine ⟨0, Binary64.toRat?_zero _, ?_⟩
    rw [abs_zero]
    exact (twoPow_pos _).le
  · have hb' : (1 : Rat) ≤ b := by exact_mod_cast hb
    have hle : |(a : Rat) / b| ≤ twoPow k := by
      rw [abs_div, abs_of_pos (zero_lt_one.trans_le hb')]
      exact (div_le_self (abs_nonneg _) hb').trans ha
    obtain ⟨v, hv, hvle⟩ := Binary64.within_ofRat hk hle
    split
    · rename_i heq
      rw [heq] at hv
      cases hv
    · exact Gives.pure ⟨v, hv, hvle⟩

theorem beq_zero_eq_false {z : Binary64} {b : Rat} (hz : z.toRat? = some b) (hb : 1 ≤ b) :
    z.beq (.finite 0) = false := by
  have hne : b ≠ 0 := (zero_lt_one.trans_le hb).ne'
  cases z with
  | finite v =>
    cases hz
    simpa [Binary64.beq, Binary64.toRat?] using hne
  | negativeZero =>
    cases hz
    exact absurd rfl hne
  | infinite _ => cases hz
  | nan => cases hz

/-- A quotient is a double that is not larger than the dividend. -/
theorem gives_dividedBy (hx : x.Within k) (hy : y.Divisor j) (hk : k < 1024) (hj : j < 1024) :
    Gives (dividedBy x y : Except Fault Number) (FloatWithin k) := by
  have hmixed : Gives (do
      let a ← x.toBinary64
      let b ← y.toBinary64
      if b.beq (.finite 0) then throw Fault.divisionByZero
      return float (a.div b)) (FloatWithin k) := by
    apply Gives.bind (gives_toBinary64 hx hk)
    intro a ha
    apply Gives.bind (hy.gives_toBinary64 hj)
    intro b ⟨v, hv, hone⟩
    rw [beq_zero_eq_false hv hone]
    exact Gives.pure ⟨_, rfl, ha.div hv hone hk⟩
  cases x with
  | float a => cases y <;> exact hmixed
  | int a =>
    cases y with
    | float b => exact hmixed
    | int b =>
      obtain ⟨u, hu, hule⟩ := hx
      obtain ⟨v, hv, hone, -⟩ := hy
      cases hu
      cases hv
      obtain ⟨z, hz, hwithin⟩ := gives_quotient hule (by exact_mod_cast hone) hk
      refine ⟨float z, ?_, z, rfl, hwithin⟩
      change float <$> quotient a b = _
      rw [hz]
      rfl

theorem gives_floor (hx : x.Within k) :
    Gives (Arithmetic.floor x : Except Fault Int) fun n => |n| ≤ 2 ^ (k + 1) := by
  have hone : (1 : Int) ≤ 2 ^ k := one_le_pow₀ (by omega)
  have hpow : (2 : Int) ^ (k + 1) = 2 ^ k + 2 ^ k := by ring
  -- The floor of a rational is within one of it.
  have hfloor (v : Rat) (hv : |v| ≤ twoPow k) : |v.floor| ≤ 2 ^ (k + 1) := by
    rw [twoPow_natCast] at hv
    obtain ⟨hlow, hhigh⟩ := abs_le.mp hv
    have hle : v.floor ≤ 2 ^ k := by
      have h : (v.floor : Rat) ≤ 2 ^ k := (Rat.floor_le v).trans hhigh
      exact_mod_cast h
    have hge : -(2 ^ k : Int) ≤ v.floor := by
      apply Rat.le_floor_iff.mpr
      push_cast
      exact hlow
    rw [hpow, abs_le]
    omega
  obtain ⟨v, hv, hle⟩ := hx
  cases x with
  | int n =>
    cases hv
    apply Gives.pure
    rw [← Rat.floor_intCast n]
    exact hfloor n hle
  | float z =>
    cases z with
    | finite w =>
      cases hv
      exact Gives.pure (hfloor v hle)
    | negativeZero =>
      apply Gives.pure
      rw [abs_zero]
      omega
    | infinite _ => cases hv
    | nan => cases hv

/-! ## Comparing, summing up and rounding -/

theorem Within.smaller (hx : x.Within k) (hy : y.Within k) : (smaller x y).Within k := by
  unfold FlowLint.smaller
  split
  · exact hy
  · exact hx

theorem Within.larger (hx : x.Within k) (hy : y.Within k) : (larger x y).Within k := by
  unfold FlowLint.larger
  split
  · exact hy
  · exact hx

theorem FloatWithin.larger (hx : x.FloatWithin k) (hy : y.FloatWithin k) :
    (larger x y).FloatWithin k := by
  unfold FlowLint.larger
  split
  · exact hy
  · exact hx

/-- The integer 0 and a double give a double. -/
theorem gives_zero_plus (hx : x.FloatWithin k) (hk : k + 54 < 1024) :
    Gives (plus (whole 0) x : Except Fault Number) (FloatWithin (k + 54)) := by
  obtain ⟨y, rfl, hy⟩ := hx
  obtain ⟨z, hz, hwithin⟩ := gives_toBinary64 (k := k + 54) (within_whole (n := 0) (by simp)) hk
  refine ⟨float (z.add y), ?_, _, rfl, hwithin.absorb hy hk⟩
  change (do return float (Binary64.add (← (whole 0 : Number).toBinary64) y)) = _
  rw [hz]
  rfl

/-- A sum of doubles, however many there are, is bounded by what bounds each of them. -/
theorem gives_sumOf {xs : List Number} (hxs : ∀ x ∈ xs, x.FloatWithin k) (hk : k + 54 < 1024) :
    Gives (sumOf xs : Except Fault Number) (Within (k + 54)) := by
  cases xs with
  | nil => exact Gives.pure (within_whole (by simp))
  | cons x xs =>
    unfold sumOf
    rw [List.foldlM_cons]
    -- The first sum turns the integer 0 into a double; from there on all sums are doubles.
    apply Gives.bind (gives_zero_plus (hxs x List.mem_cons_self) hk)
    intro total htotal
    refine Gives.mono (Gives.foldlM ?_ htotal) fun _ h => h.within
    intro total htotal y hy
    exact gives_plus_absorb htotal (hxs y (List.mem_cons_of_mem x hy)).within hk

/-- The factor that moves the decimal places of a score to the left of the point. -/
theorem powerOfTen_within {places : Int} (hplaces : places = 0 ∨ places = 2) :
    (powerOfTen places : Number).Within 7 ∧ (powerOfTen places : Number).Divisor 7 := by
  rcases hplaces with rfl | rfl
  · exact ⟨within_whole (n := 1) (by decide), divisor_whole (n := 1) (by decide) (by decide)⟩
  · exact ⟨within_whole (n := 100) (by decide), divisor_whole (n := 100) (by decide) (by decide)⟩

theorem gives_roundHalfUp {places : Int} (hplaces : places = 0 ∨ places = 2) (hx : x.Within k)
    (hk : k + 9 < 1024) :
    Gives (roundHalfUp places x : Except Fault Number) (FloatWithin (k + 9)) := by
  obtain ⟨hfactor, hdivisor⟩ := powerOfTen_within hplaces
  unfold roundHalfUp
  apply Gives.bind (gives_times hx hfactor (by omega))
  intro scaled hscaled
  have hhalf : (decimal (1 / 2) : Number).Within (k + 7) :=
    (floatWithin_decimal (k := 0) (by omega) (by norm_num [abs_of_pos])).within.mono (by omega)
  apply Gives.bind (gives_plus hscaled hhalf (by omega))
  intro shifted hshifted
  apply Gives.bind (gives_floor hshifted)
  intro n hn
  exact gives_dividedBy (within_whole hn) hdivisor hk (by omega)

end Number

end FlowLint
