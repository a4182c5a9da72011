import FlowLint.Proofs.Intake
import FlowLint.Proofs.Shares

/-!
# What overflows

A group of units has a record unless one of two numbers is too large: the lines of a unit, in units
of 150 lines, or the mean complexity, once it is multiplied by a hundred to be rounded. Nothing else
in a record ever overflows.

* `Number.Rounds`: a number that can be rounded to hundredths.
* `UnitSample.Scalable`, `Scorable`: the two conditions.
* `groupRecord_succeeds_iff`: a group has a record exactly under them.
-/

namespace FlowLint

open Number
open Script (bind_eq_ok exists_mem_of_forall₂ mapM_eq_ok_iff)

/-! ## Doubles -/

namespace Binary64

variable {x y : Binary64} {v w q : Rat}

/-- What is beyond all doubles is rounded to no number. -/
theorem toRat?_ofRat_eq_none (h : twoPow 1024 ≤ |q|) : (ofRat q).toRat? = none := by
  have hq : q ≠ 0 := abs_pos.mp ((twoPow_pos _).trans_le h)
  rw [ofRat_eq hq, if_pos (le_roundPositive (by decide) h)]
  rfl

/-- A sum is finite only if what is added to is. -/
theorem exists_toRat?_of_add (h : (x.add y).toRat? = some w) : ∃ v, x.toRat? = some v := by
  cases x with
  | finite v => exact ⟨v, rfl⟩
  | negativeZero => exact ⟨0, rfl⟩
  | infinite s =>
    cases y with
    | infinite t =>
      have hsum : ((infinite s).add (infinite t)).toRat? = none := by
        simp only [add]
        split <;> rfl
      rw [hsum] at h
      cases h
    | _ => cases h
  | nan => cases h

/-- A product with a finite double is finite only if the other factor is. -/
theorem exists_toRat?_of_mul (hy : y.toRat? = some v) (h : (x.mul y).toRat? = some w) :
    ∃ v, x.toRat? = some v := by
  cases x with
  | finite v => exact ⟨v, rfl⟩
  | negativeZero => exact ⟨0, rfl⟩
  | infinite s =>
    have hproduct : ((infinite s).mul y).toRat? = none := by
      cases y with
      | finite _ =>
        simp only [mul]
        split <;> rfl
      | negativeZero => rfl
      | infinite _ => cases hy
      | nan => cases hy
    rw [hproduct] at h
    cases h
  | nan => cases h

end Binary64

/-! ## Rounding -/

namespace Number

open Binary64 (IsBound isBound_of_eq)

variable {x y : Number}

/-- The number can be rounded to hundredths. -/
def Rounds (x : Number) : Prop :=
  ∃ rounded : Number, roundHalfUp 2 x = Except.ok (ε := Fault) rounded

theorem Rounds.smaller (hx : x.Rounds) (hy : y.Rounds) : (smaller x y).Rounds := by
  unfold FlowLint.smaller
  split
  · exact hy
  · exact hx

theorem rounds_of_within {k : Nat} (hx : x.Within k) (hk : k + 9 < 1024) : x.Rounds := by
  obtain ⟨rounded, h, -⟩ := gives_roundHalfUp (.inr rfl) hx hk
  exact ⟨rounded, h⟩

/-- What can be rounded is finite, and a hundredth of what is beyond all doubles. -/
theorem Rounds.exists_toRat? {z : Binary64} (h : (float z).Rounds) :
    ∃ v, z.toRat? = some v ∧ |v| * 100 < twoPow 1024 := by
  obtain ⟨rounded, h⟩ := h
  obtain ⟨scaled, hscaled, h⟩ := bind_eq_ok.mp h
  obtain ⟨shifted, hshifted, h⟩ := bind_eq_ok.mp h
  obtain ⟨n, hfloor, -⟩ := bind_eq_ok.mp h
  have hhundred := Binary64.toRat?_ofRat_intCast (n := 100) (by decide)
  have hproduct : scaled = float (z.mul (.ofRat (100 : Int))) := by
    have heq : (do return float (z.mul (← Binary64.ofInt 100))) = Except.ok (ε := Fault) scaled :=
      hscaled
    rw [ofInt_eq hhundred] at heq
    exact (Except.ok.inj heq).symm
  subst hproduct
  cases hshifted
  obtain ⟨w, hw⟩ : ∃ w, ((z.mul (.ofRat (100 : Int))).add (.ofRat (1 / 2))).toRat? = some w := by
    generalize (z.mul (.ofRat (100 : Int))).add (.ofRat (1 / 2)) = sum at hfloor
    cases sum with
    | finite w => exact ⟨w, rfl⟩
    | negativeZero => exact ⟨0, rfl⟩
    | infinite _ => cases hfloor
    | nan => cases hfloor
  obtain ⟨w, hw⟩ := Binary64.exists_toRat?_of_add hw
  obtain ⟨v, hv⟩ := Binary64.exists_toRat?_of_mul hhundred hw
  refine ⟨v, hv, ?_⟩
  by_contra hlarge
  have hbeyond : twoPow 1024 ≤ |v * (100 : Int)| := by
    rw [abs_mul]
    exact not_lt.mp hlarge
  rw [Binary64.toRat?_mul hv hhundred, Binary64.toRat?_ofRat_eq_none hbeyond] at hw
  cases hw

/-- A multiple of a large power of two, as a bound. -/
theorem isBound_mul {m : Int} (hm : 0 ≤ m ∧ m < 2 ^ 11) : IsBound (m * twoPow 1013) := by
  have hpow : twoPow 1013 = ((2 ^ 42 : Int) : Rat) * twoPow 971 := by
    rw [show (2 ^ 42 : Int) = 2 ^ ((1013 : Int) - 971).toNat by decide, ← twoPow_div (by decide)]
    exact (div_mul_cancel₀ _ (twoPow_pos 971).ne').symm
  refine isBound_of_eq (m := m * 2 ^ 42) (p := 971) ?_ ?_ (by decide)
  · rw [hpow, ← mul_assoc, Int.cast_mul]
  · omega

/-- A double is rounded if it is clearly below a hundredth of what is beyond all doubles. -/
theorem rounds_of_between (hx : x.FloatBetween (15 * twoPow 1013) (15 * twoPow 1013)) :
    x.Rounds := by
  have hunit := twoPow_pos 1013
  have hone : 1 ≤ twoPow 1013 := by
    rw [show (1 : Rat) = twoPow 0 by decide]
    exact twoPow_le_twoPow (by decide)
  have hscaledBound : IsBound ((1500 : Int) * twoPow 1013) := isBound_mul (by decide)
  have hshiftedBound : IsBound ((1501 : Int) * twoPow 1013) := isBound_mul (by decide)
  have hroundedBound : IsBound ((16 : Int) * twoPow 1013) := isBound_mul (by decide)
  have hrounded : Gives (roundHalfUp 2 x : Except Fault Number) fun _ => True := by
    unfold roundHalfUp
    rw [show (powerOfTen 2 : Number) = whole 100 from rfl]
    apply Gives.bind (gives_times_between hx (by decide) hscaledBound hscaledBound
      (by push_cast; linarith) (by push_cast; linarith))
    intro scaled hscaled
    apply Gives.bind (gives_plus_half hscaled hscaledBound hshiftedBound (by linarith)
      (by push_cast; linarith))
    intro shifted hshifted
    apply Gives.bind (gives_floor_between hshifted)
    intro n ⟨hlow, hhigh⟩
    push_cast at hlow hhigh
    refine (gives_dividedBy_between (by decide) hroundedBound hroundedBound
      ?_ ?_).mono fun _ _ => trivial
    · rw [le_div_iff₀ (by norm_num)]
      push_cast
      linarith
    · rw [div_le_iff₀ (by norm_num)]
      push_cast
      linarith
  obtain ⟨rounded, h, -⟩ := hrounded
  exact ⟨rounded, h⟩

theorem exists_float_of_dividedBy {z : Number}
    (h : dividedBy x y = Except.ok (ε := Fault) z) : ∃ d, z = float d := by
  have hmixed (h : (do
      let a ← x.toBinary64
      let b ← y.toBinary64
      if b.beq (.finite 0) then throw Fault.divisionByZero
      return float (a.div b)) = Except.ok (ε := Fault) z) : ∃ d, z = float d := by
    obtain ⟨a, -, h⟩ := bind_eq_ok.mp h
    obtain ⟨b, -, h⟩ := bind_eq_ok.mp h
    split at h
    · cases h
    · cases h
      exact ⟨_, rfl⟩
  cases x with
  | float a => cases y <;> exact hmixed h
  | int a =>
    cases y with
    | float b => exact hmixed h
    | int b =>
      have hquotient : float <$> quotient a b = Except.ok (ε := Fault) z := h
      cases hq : quotient a b with
      | error fault =>
        rw [hq] at hquotient
        cases hquotient
      | ok d =>
        rw [hq] at hquotient
        cases hquotient
        exact ⟨d, rfl⟩

theorem minus_float (x : Number) (z : Binary64) :
    (minus x (float z) : Except Fault Number) =
      (do return float ((← x.toBinary64).sub z)) := by
  cases x <;> rfl

/-- Two thirds of what can be rounded. -/
theorem gives_twoThirds {z : Binary64} (hz : (float z).Rounds) :
    Gives (dividedBy (float z) (decimal (3 / 2)) : Except Fault Number)
      (FloatBetween ((14 : Int) * twoPow 1013) ((14 : Int) * twoPow 1013)) := by
  obtain ⟨v, hv, hsmall⟩ := hz.exists_toRat?
  have hfactor : (Binary64.ofRat (3 / 2)).toRat? = some (3 / 2) := by decide +kernel
  have hdivided : (dividedBy (float z) (decimal (3 / 2)) : Except Fault Number) =
      .ok (float (z.div (.ofRat (3 / 2)))) := by
    change (if (Binary64.ofRat (3 / 2)).beq (.finite 0) then throw Fault.divisionByZero else
      (pure (float (z.div (.ofRat (3 / 2)))) : Except Fault Number)) = _
    rw [beq_zero_eq_false hfactor (by norm_num)]
    rfl
  have hpow : twoPow 1024 = 2048 * twoPow 1013 := by
    rw [show (2048 : Rat) = twoPow 11 by decide, ← twoPow_add]
    rfl
  have hsize : |v| ≤ 21 * twoPow 1013 := by linarith [twoPow_pos 1013]
  obtain ⟨hlow, hhigh⟩ := abs_le.mp hsize
  have hbound : IsBound ((14 : Int) * twoPow 1013) := isBound_mul (by decide)
  refine ⟨_, hdivided, _, rfl,
    Binary64.between_of_toRat?_eq (Binary64.toRat?_div hv hfactor) hbound hbound ?_ ?_⟩
  · push_cast
    linarith
  · push_cast
    linarith

/-- What is left of a moderate score can be rounded. -/
theorem gives_minus_rounds (hx : x.Within 699)
    (hy : y.FloatBetween ((14 : Int) * twoPow 1013) ((14 : Int) * twoPow 1013)) :
    Gives (minus x y : Except Fault Number) Rounds := by
  obtain ⟨z, rfl, w, hw, hwlow, hwhigh⟩ := hy
  obtain ⟨a, ha, u, hu, hule⟩ := gives_toBinary64 hx (by omega)
  have hsmall : twoPow (699 : Nat) ≤ twoPow 1013 := twoPow_le_twoPow (by decide)
  obtain ⟨hulow, huhigh⟩ := abs_le.mp (hule.trans hsmall)
  have hbound : IsBound (15 * twoPow 1013) := isBound_mul (m := 15) (by decide)
  have hminus : (minus x (float z) : Except Fault Number) = .ok (float (a.sub z)) := by
    rw [minus_float, ha]
    rfl
  push_cast at hwlow hwhigh
  exact ⟨_, hminus, rounds_of_between ⟨_, rfl,
    Binary64.between_of_toRat?_eq (Binary64.toRat?_add hu (Binary64.toRat?_neg hw)) hbound hbound
      (by linarith) (by linarith)⟩⟩

/-- What the complexity takes off a score leaves it one that can be rounded, if the complexity can
be rounded itself. -/
theorem gives_lessComplexity {z : Binary64} (hx : x.Within 699) (hz : (float z).Rounds) :
    Gives (do minus x (smaller (← dividedBy (float z) (decimal (3 / 2))) (whole 40)) :
      Except Fault Number) Rounds := by
  apply Gives.bind (gives_twoThirds hz)
  intro scaled hscaled
  unfold FlowLint.smaller
  split
  · have hmost : (whole 40 : Number).Within 699 :=
      (within_whole (k := 6) (by decide)).mono (by omega)
    exact (gives_minus hx hmost (by omega)).mono fun _ h => rounds_of_within h (by omega)
  · exact gives_minus_rounds hx hscaled

end Number

/-! ## Units -/

/-- The number of lines of a unit, in units of 150 lines, is not beyond all doubles. -/
def UnitSample.Scalable (s : UnitSample Number) : Prop :=
  ∀ n : Int, s.linesOfCode = .int n → Binary64.ofRat ((n : Rat) / 150) ≠ .infinite false

namespace Binary64

variable {x : Binary64} {v : Rat}

theorem pos_of_ofRat_eq_infinite (h : ofRat v = infinite false) : 0 < v := by
  by_contra hle
  have hneg : v ≠ 0 → v < 0 := fun hne => lt_of_le_of_ne (not_lt.mp hle) hne
  by_cases hzero : v = 0
  · rw [hzero, ofRat_zero] at h
    cases h
  · rw [ofRat_eq hzero, decide_eq_true (hneg hzero)] at h
    split at h
    · cases h
    · split at h
      · split at h <;> cases h
      · cases h

theorem NonNeg.div (hx : x.NonNeg) (hv : 0 < v) : (x.div (finite v)).NonNeg := by
  have hsign : (finite v).isNegative = false := decide_eq_false (not_lt.mpr hv.le)
  rcases hx.cases with rfl | rfl | rfl | ⟨w, hw, rfl⟩
  · exact nonNeg_nan
  · have hquotient : (infinite false).div (finite v) =
        infinite ((infinite false).isNegative != (finite v).isNegative) := rfl
    rw [hquotient, hsign]
    exact nonNeg_infinite.mpr rfl
  · exact nonNeg_product _ (div_nonneg le_rfl hv.le)
  · exact nonNeg_product _ (div_nonneg hw hv.le)

end Binary64

namespace Number

/-- A count in units of 150 is a double that is not below zero, unless it is beyond all doubles. -/
theorem gives_quotient_150 {n : Int} (hn : 0 ≤ n)
    (h : Binary64.ofRat ((n : Rat) / 150) ≠ .infinite false) :
    Gives (quotient n 150) Binary64.NonNeg := by
  have hshare : (0 : Rat) ≤ (n : Rat) / 150 := div_nonneg (Int.cast_nonneg hn) (by norm_num)
  have hnonneg := Binary64.nonNeg_ofRat hshare
  rw [quotient, if_neg (by decide : ¬(150 : Int) = 0)]
  split
  · exact Gives.pure (Binary64.nonNeg_zero _)
  · push_cast
    generalize Binary64.ofRat ((n : Rat) / 150) = d at h hnonneg ⊢
    split
    · rename_i sign
      exact absurd (congrArg Binary64.infinite (Binary64.nonNeg_infinite.mp hnonneg)) h
    · exact Gives.pure hnonneg

/-- What is not below zero is brought to at most five halves, or is no number. -/
theorem within_or_nan_of_nonNeg {w : Binary64} (hw : w.NonNeg) :
    (FlowLint.smaller (float w) (decimal (5 / 2))).Within 65 ∨
      FlowLint.smaller (float w) (decimal (5 / 2)) = float .nan := by
  have hvalue : (decimal (5 / 2) : Number) = float (.finite (5 / 2)) := by decide +kernel
  have hmost : (float (.finite (5 / 2))).Within 65 := by
    refine ⟨5 / 2, rfl, ?_⟩
    rw [twoPow_natCast]
    norm_num [abs_of_pos]
  rw [hvalue]
  rcases hw.cases with rfl | rfl | rfl | ⟨v, hv, rfl⟩
  · exact .inr rfl
  · exact .inl hmost
  · refine .inl (Within.smaller ⟨0, rfl, ?_⟩ hmost)
    rw [abs_zero]
    exact (twoPow_pos _).le
  · left
    unfold FlowLint.smaller
    split
    · exact hmost
    · rename_i hlt
      have hle : v ≤ 5 / 2 := not_lt.mp fun h => hlt (decide_eq_true h)
      refine ⟨v, rfl, ?_⟩
      rw [abs_of_nonneg hv, twoPow_natCast]
      exact hle.trans (by norm_num)

end Number

namespace UnitSample

variable {s : UnitSample Number}

/-- The lines of a unit in units of 150 lines, as a double. -/
theorem Scalable.gives_share (h : s.Scalable) :
    Gives (dividedBy (larger s.linesOfCode (whole 0)) (whole 150) : Except Fault Number)
      fun share => ∃ d : Binary64, share = .float d ∧ d.NonNeg := by
  have hzero : Gives (dividedBy (whole 0) (whole 150) : Except Fault Number)
      fun share => ∃ d : Binary64, share = .float d ∧ d.NonNeg :=
    ⟨_, rfl, _, rfl, Binary64.nonNeg_zero _⟩
  unfold larger
  split
  · exact hzero
  · rename_i hlt
    cases hlines : s.linesOfCode with
    | int n =>
      rw [hlines] at hlt
      have hn : 0 ≤ n := by
        have hcast : ¬(n : Rat) < (0 : Int) := fun hneg => hlt (decide_eq_true hneg)
        exact_mod_cast not_lt.mp hcast
      obtain ⟨d, hd, hnonneg⟩ := Number.gives_quotient_150 hn (h n hlines)
      refine ⟨.float d, ?_, d, rfl, hnonneg⟩
      change Number.float <$> Number.quotient n 150 = _
      rw [hd]
      rfl
    | float x =>
      rw [hlines] at hlt
      have hx : x.NonNeg := by
        cases x with
        | finite v => exact Bool.eq_false_iff.mpr hlt
        | negativeZero => exact Binary64.nonNeg_negativeZero
        | infinite sign => exact Bool.eq_false_iff.mpr hlt
        | nan => exact Binary64.nonNeg_nan
      have hscale : Binary64.ofInt 150 = .ok (.finite 150) := by decide +kernel
      refine ⟨.float (x.div (.finite 150)), ?_, _, rfl, hx.div (by norm_num)⟩
      change (do
        let y ← Binary64.ofInt 150
        if y.beq (.finite 0) then throw Fault.divisionByZero
        return Number.float (x.div y)) = _
      rw [hscale]
      rfl

theorem scalable_of_share {share : Number}
    (h : dividedBy (larger s.linesOfCode (whole 0)) (whole 150) = Except.ok (ε := Fault) share) :
    s.Scalable := by
  intro n hlines hinfinite
  have hpos : (0 : Rat) < n := by
    have h := Binary64.pos_of_ofRat_eq_infinite hinfinite
    linarith
  have hlarger : larger s.linesOfCode (whole 0) = whole n := by
    have hlt : ¬Numeral.lt (whole n : Number) (whole 0) = true := fun hlt =>
      absurd (of_decide_eq_true hlt) (not_lt.mpr hpos.le)
    rw [hlines]
    exact if_neg hlt
  have hquotient : Number.quotient n 150 = .error .unbounded := by
    have hne : ¬n = 0 := fun hzero => by simp [hzero] at hpos
    rw [Number.quotient, if_neg (by decide : ¬(150 : Int) = 0), if_neg hne]
    push_cast
    rw [hinfinite]
  have hshare : Number.float <$> Number.quotient n 150 = Except.ok (ε := Fault) share := by
    rw [hlarger] at h
    exact h
  rw [hquotient] at hshare
  cases hshare

/-- How much a unit counts by its size: at most five halves, unless its lines are no number. -/
theorem Scalable.gives_sizeMultiplier (h : s.Scalable) :
    Gives (sizeMultiplier s.linesOfCode : Except Fault Number) (Number.Within 65) ∨
      (sizeMultiplier s.linesOfCode : Except Fault Number) = .ok (.float .nan) := by
  obtain ⟨_, hshare, d, rfl, hd⟩ := h.gives_share
  have hone : Binary64.ofInt 1 = .ok (.finite 1) := by decide +kernel
  have hplus : (plus (whole 1) (Number.float d) : Except Fault Number) =
      .ok (.float ((Binary64.finite 1).add d)) := by
    change (do return Number.float ((← Binary64.ofInt 1).add d)) = _
    rw [hone]
    rfl
  have hmultiplier : (sizeMultiplier s.linesOfCode : Except Fault Number) =
      .ok (smaller (.float ((Binary64.finite 1).add d)) (decimal (5 / 2))) := by
    rw [sizeMultiplier, hshare]
    change (do
      let multiplier ← (plus (whole 1) (Number.float d) : Except Fault Number)
      return smaller multiplier (decimal (5 / 2))) = _
    rw [hplus]
    rfl
  rw [hmultiplier]
  have hnonneg : ((Binary64.finite 1).add d).NonNeg :=
    (Binary64.nonNeg_finite.mpr (by norm_num)).add hd
  rcases Number.within_or_nan_of_nonNeg hnonneg with hwithin | hnan
  · exact .inl (Gives.pure hwithin)
  · exact .inr (congrArg Except.ok hnan)

variable {weights : Weights Number} (kinds : List IssueKind)

/-- Such a unit has a score. -/
theorem Scalable.gives_unitScore (h : s.Scalable) (hweights : weights.Moderate) :
    Gives (unitScore weights kinds s.linesOfCode : Except Fault Number)
      (Number.FloatWithin 642) := by
  rcases h.gives_sizeMultiplier with hmultiplier | hnan
  · exact gives_unitScore_of_multiplier hweights kinds hmultiplier
  · -- A NaN takes off nothing that could be compared, so that zero is left.
    have hzero : (decimal 0 : Number).Within 633 :=
      (Number.floatWithin_decimal (by omega) (by simp)).within
    unfold unitScore
    apply Gives.bind (gives_deduction hweights kinds)
    rintro _ ⟨b, rfl, -⟩
    rw [hnan]
    have htaken : (times (Number.float b) (.float .nan) : Except Fault Number) =
        .ok (.float .nan) := by
      cases b <;> rfl
    change Gives (do
      let taken ← (times (Number.float b) (.float .nan) : Except Fault Number)
      let left ← minus (ceilingFor (kinds.countP IssueKind.isCritical)) taken
      roundHalfUp 2 (larger (decimal 0) left)) (Number.FloatWithin 642)
    rw [htaken]
    obtain ⟨c, hc, -⟩ := Number.gives_toBinary64
      (within_ceilingFor (kinds.countP IssueKind.isCritical)) (by omega)
    have hleft : (minus (ceilingFor (kinds.countP IssueKind.isCritical)) (Number.float .nan) :
        Except Fault Number) = .ok (.float .nan) := by
      rw [Number.minus_float, hc]
      cases c <;> rfl
    change Gives (do
      let left ← (minus (ceilingFor (kinds.countP IssueKind.isCritical)) (Number.float .nan) :
        Except Fault Number)
      roundHalfUp 2 (larger (decimal 0) left)) (Number.FloatWithin 642)
    rw [hleft]
    exact Number.gives_roundHalfUp (.inr rfl) hzero (by omega)

/-- A unit has a score exactly if it is scalable. -/
theorem unitScore_succeeds_iff (hweights : weights.Moderate) :
    (∃ score : Number, unitScore weights kinds s.linesOfCode = Except.ok (ε := Fault) score) ↔
      s.Scalable := by
  constructor
  · rintro ⟨score, h⟩
    obtain ⟨base, -, h⟩ := bind_eq_ok.mp h
    obtain ⟨multiplier, hmultiplier, -⟩ := bind_eq_ok.mp h
    obtain ⟨share, hshare, -⟩ := bind_eq_ok.mp hmultiplier
    exact scalable_of_share hshare
  · intro h
    obtain ⟨score, hscore, -⟩ := h.gives_unitScore kinds hweights
    exact ⟨score, hscore⟩

end UnitSample

/-! ## Groups -/

/-- The mean of numbers, rounded to hundredths. -/
def roundedMean (xs : List Number) : Except Fault Number := do
  let mean ← dividedBy (← sumOf xs) (whole xs.length)
  roundHalfUp 2 mean

/-- No lines of a unit are too many, and the mean complexity, if there are units, is not too large
to be rounded. -/
structure Scorable (samples : List (UnitSample Number)) : Prop where
  lines : ∀ s ∈ samples, s.Scalable
  complexity : samples ≠ [] →
    ∃ rounded, roundedMean (samples.map UnitSample.complexity) = .ok rounded

variable {weights : Weights Number} {records : List (UnitRecord Number)}

/-- The means of a group can be rounded, if the mean complexity can. -/
theorem gives_groupMeans_rounds {faulty critical : Nat} (hlength : records.length < memoryLimit)
    (hquality : ∀ r ∈ records, r.qualityScore.FloatWithin 642)
    (hcomplexity : records ≠ [] →
      ∃ rounded, roundedMean (records.map (·.complexityScore)) = .ok rounded)
    (hfaulty : faulty ≤ records.length) (hcritical : critical ≤ records.length) :
    Gives (groupMeans records faulty critical : Except Fault (Number × Number)) fun means =>
      means.1.Rounds ∧ means.2.Rounds ∧ ∃ z, means.2 = .float z := by
  apply gives_groupMeans_of hlength hquality hfaulty hcritical
    (P := fun x => x.Rounds ∧ ∃ z, x = .float z)
  · have hzero := floatWithin_decimal (q := 0) (k := 0) (by omega) (by simp)
    exact ⟨rounds_of_within hzero.within (by omega), _, rfl⟩
  · exact fun x hx => rounds_of_within hx (by omega)
  · intro hne
    obtain ⟨rounded, h⟩ := hcomplexity hne
    obtain ⟨sum, hsum, h⟩ := bind_eq_ok.mp h
    obtain ⟨mean, hmean, h⟩ := bind_eq_ok.mp h
    rw [List.length_map] at hmean
    exact ⟨mean, bind_eq_ok.mpr ⟨sum, hsum, hmean⟩, ⟨rounded, h⟩, exists_float_of_dividedBy hmean⟩
  · rintro x _ hx ⟨hrounds, z, rfl⟩
    exact gives_lessComplexity hx hrounds

/-- The records of units have a record together, if their mean complexity can be rounded. -/
theorem exists_groupRecordOf (groupId groupName : String) (hlength : records.length < memoryLimit)
    (hquality : ∀ r ∈ records, r.qualityScore.FloatWithin 642)
    (hcomplexity : records ≠ [] →
      ∃ rounded, roundedMean (records.map (·.complexityScore)) = .ok rounded) :
    Gives (groupRecordOf groupId groupName records : Except Fault (GroupRecord Number))
      fun _ => True := by
  unfold groupRecordOf
  dsimp only
  generalize hfaulty : records.filter (fun r => !r.issues.isEmpty) = faulty
  generalize hcritical : faulty.filter (·.hasCriticalIssue) = critical
  have hfaultyLength : faulty.length ≤ records.length := hfaulty ▸ List.length_filter_le ..
  have hcriticalLength : critical.length ≤ faulty.length := hcritical ▸ List.length_filter_le ..
  apply Gives.bind (gives_groupMeans_rounds hlength hquality hcomplexity hfaultyLength
    (hcriticalLength.trans hfaultyLength))
  rintro ⟨score, complexity⟩ ⟨hscore, ⟨roundedComplexity, hroundedComplexity⟩, -⟩
  have hcap {n : Int} (h : |n| ≤ 2 ^ 6) : (whole n : Number).Rounds :=
    rounds_of_within (within_whole (k := 6) h) (by omega)
  have hcapped : (if critical.isEmpty then score else smaller score (whole 50)).Rounds := by
    split
    · exact hscore
    · exact hscore.smaller (hcap (by decide))
  apply Gives.bind (gives_exceeds_share (by omega) (by omega))
  intro mostlyFaulty _
  generalize (if critical.isEmpty then score else smaller score (whole 50)) = capped at hcapped ⊢
  obtain ⟨quality, hquality⟩ :
      (if mostlyFaulty then smaller capped (whole 30) else capped).Rounds := by
    split
    · exact hcapped.smaller (hcap (by decide))
    · exact hcapped
  rw [hquality]
  apply Gives.bind (Q := fun _ => True) ⟨quality, rfl, trivial⟩
  intro _ _
  rw [hroundedComplexity]
  exact ⟨_, rfl, trivial⟩

/-- The mean complexity of a group is the mean of the complexities of its units. -/
theorem complexity_of_groupMeans {faulty critical : Nat} {score complexity : Number}
    (h : groupMeans records faulty critical = Except.ok (ε := Fault) (score, complexity))
    (hne : records ≠ []) :
    ∃ sum : Number, sumOf (records.map (·.complexityScore)) = Except.ok (ε := Fault) sum ∧
      dividedBy sum (whole records.length) = Except.ok (ε := Fault) complexity := by
  have hempty : ¬records.isEmpty = true := fun h => hne (List.isEmpty_iff.mp h)
  rw [groupMeans, if_neg hempty] at h
  obtain ⟨sum, hsum, h⟩ := bind_eq_ok.mp h
  obtain ⟨mean, hmean, h⟩ := bind_eq_ok.mp h
  obtain ⟨qualities, -, h⟩ := bind_eq_ok.mp h
  obtain ⟨quality, -, h⟩ := bind_eq_ok.mp h
  obtain ⟨share, -, h⟩ := bind_eq_ok.mp h
  obtain ⟨lessCritical, -, h⟩ := bind_eq_ok.mp h
  obtain ⟨share', -, h⟩ := bind_eq_ok.mp h
  obtain ⟨lessFaulty, -, h⟩ := bind_eq_ok.mp h
  split at h
  · cases h
    exact ⟨sum, hsum, hmean⟩
  · obtain ⟨scaled, -, h⟩ := bind_eq_ok.mp h
    obtain ⟨lessComplex, -, h⟩ := bind_eq_ok.mp h
    cases h
    exact ⟨sum, hsum, hmean⟩

theorem exists_roundedMean {groupId groupName : String} {r : GroupRecord Number}
    (h : groupRecordOf groupId groupName records = Except.ok (ε := Fault) r)
    (hne : records ≠ []) :
    ∃ rounded, roundedMean (records.map (·.complexityScore)) = .ok rounded := by
  obtain ⟨score, complexity, hmeans, hrounded⟩ := (madeOf_of_groupRecordOf h).complexityScore
  obtain ⟨sum, hsum, hmean⟩ := complexity_of_groupMeans hmeans hne
  refine ⟨r.complexityScore, bind_eq_ok.mpr ⟨sum, hsum, bind_eq_ok.mpr ⟨complexity, ?_, hrounded⟩⟩⟩
  rwa [List.length_map]

/-- The record of a unit has its complexity, and a score if it is scalable. -/
theorem UnitSample.Scalable.gives_unitRecord {s : UnitSample Number} (h : s.Scalable)
    (hweights : weights.Moderate) :
    Gives (unitRecord weights s : Except Fault (UnitRecord Number))
      fun r => r.qualityScore.FloatWithin 642 := by
  unfold unitRecord
  apply Gives.bind (h.gives_unitScore _ hweights)
  intro score hscore
  exact Gives.pure hscore

/-- A group has a record exactly if its samples can be scored. -/
theorem groupRecord_succeeds_iff (hweights : weights.Moderate) {groupId groupName : String}
    {samples : List (UnitSample Number)} (hlength : samples.length < memoryLimit) :
    (∃ r, groupRecord weights groupId groupName samples = Except.ok (ε := Fault) r) ↔
      Scorable samples := by
  constructor
  · rintro ⟨r, h⟩
    obtain ⟨records, hrecords, hr⟩ := bind_eq_ok.mp h
    refine ⟨fun s hs => ?_, fun hne => ?_⟩
    · obtain ⟨u, -, hu⟩ := exists_mem_of_forall₂ (mapM_eq_ok_iff.mp hrecords) s hs
      obtain ⟨score, hscore, -⟩ := bind_eq_ok.mp hu
      exact (UnitSample.unitScore_succeeds_iff _ hweights).mp ⟨score, hscore⟩
    · obtain rfl := samples_of_unitRecords hrecords
      rw [List.map_map]
      exact exists_roundedMean hr fun hnil => hne (by rw [hnil, List.map_nil])
  · intro h
    obtain ⟨records, hrecords, heach⟩ := Gives.mapM fun s hs =>
      (h.lines s hs).gives_unitRecord hweights
    have hquality : ∀ u ∈ records, u.qualityScore.FloatWithin 642 :=
      forall_mem_of_forall₂_right heach fun _ _ h => h
    obtain rfl := samples_of_unitRecords hrecords
    have hcomplexity := h.complexity
    rw [List.map_map] at hcomplexity
    rw [List.length_map] at hlength
    obtain ⟨r, hr, -⟩ := exists_groupRecordOf groupId groupName hlength hquality fun hne =>
      hcomplexity fun hnil => hne (List.map_eq_nil_iff.mp hnil)
    exact ⟨r, bind_eq_ok.mpr ⟨records, hrecords, hr⟩⟩

end FlowLint
