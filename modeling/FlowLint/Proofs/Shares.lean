import FlowLint.Proofs.Magnitude
import FlowLint.Quality.Grade

/-!
# Shares and percentages

A share of a whole is from zero to one, and a percentage from zero to a hundred, also as doubles:
rounding does not cross a double. Nothing in them is ever too large, however large the whole is.

* `Binary64.IsDouble.roundPositive_le`: what is at most a double is not rounded above it.
* `Binary64.Between`, `Number.FloatBetween`: doubles with a bound on either side of zero.
* `gives_healthPercentage`: a group has a health from zero to a hundred percent.
* `exists_groupReport`: and so it has a report.
-/

namespace FlowLint

namespace Binary64

variable {q l l' b b' v : Rat} {x y : Binary64}

/-- What is at most a double is not rounded above it. -/
theorem IsDouble.roundPositive_le (hb : IsDouble b) (hq : 0 < q) (h : q ≤ b) :
    roundPositive q ≤ b := by
  obtain ⟨m, p, hmp, hm, hp⟩ := hb
  rcases le_or_gt (placeOf q) p with hplace | hplace
  · have hwhole : ((m * 2 ^ (p - placeOf q).toNat : Int) : Rat) * twoPow (placeOf q) = b := by
      rw [Int.cast_mul, ← twoPow_div hplace, hmp]
      field_simp [(twoPow_pos (placeOf q)).ne']
    rw [← hwhole]
    refine roundPositive_le_of_lt ?_
    have hpos := twoPow_pos (placeOf q)
    rw [add_mul, hwhole]
    linarith
  · -- The number is so large that it can only be the double itself.
    have hexp : p + 53 ≤ exponentOf q := by
      rcases max_choice (exponentOf q - 52) (-1074) with heq | heq
      · rw [placeOf, heq] at hplace
        omega
      · rw [placeOf, heq] at hplace
        omega
    have hbits : twoPow 53 = ((2 ^ 53 : Int) : Rat) := by decide
    have hle : b ≤ twoPow (p + 53) := by
      rw [hmp, add_comm, twoPow_add, hbits]
      exact mul_le_mul_of_nonneg_right (by exact_mod_cast hm) (twoPow_pos p).le
    have heq : q = b :=
      le_antisymm h (hle.trans ((twoPow_le_twoPow hexp).trans (exponentOf_spec hq).1))
    rw [heq, IsDouble.roundPositive_eq ⟨m, p, hmp, hm, hp⟩ (heq ▸ hq)]

/-- A bound that is a double. -/
structure IsBound (b : Rat) : Prop where
  isDouble : IsDouble b
  nonneg : 0 ≤ b
  lt : b < twoPow 1024

theorem isBound_of_eq {m p : Int} (hb : b = m * twoPow p) (hm : 0 ≤ m ∧ m < 2 ^ 53)
    (hp : -1074 ≤ p ∧ p ≤ 971) : IsBound b where
  isDouble := ⟨m, p, hb, hm.2.le, hp.1⟩
  nonneg := by
    rw [hb]
    exact mul_nonneg (by exact_mod_cast hm.1) (twoPow_pos p).le
  lt := by
    have hbits : twoPow 53 = ((2 ^ 53 : Int) : Rat) := by decide
    have hlt : b < twoPow (53 + p) := by
      rw [hb, twoPow_add, hbits]
      exact mul_lt_mul_of_pos_right (by exact_mod_cast hm.2) (twoPow_pos p)
    exact hlt.trans_le (twoPow_le_twoPow (by omega))

theorem isBound_intCast {n : Int} (h : 0 ≤ n ∧ n < 2 ^ 53) : IsBound n :=
  isBound_of_eq (by rw [show twoPow 0 = 1 by decide, mul_one]) h (by decide)

/-- Zero is a bound, for what has a sign. -/
theorem isBound_zero : IsBound 0 :=
  isBound_intCast (n := 0) (by decide)

/-- An integer of at most 53 bits is a double. -/
theorem toRat?_ofRat_intCast {n : Int} (h : 0 ≤ n ∧ n < 2 ^ 53) :
    (ofRat n).toRat? = some (n : Rat) := by
  have hbound := isBound_intCast h
  rcases hbound.nonneg.eq_or_lt with hzero | hpos
  · rw [← hzero, ofRat_zero]
    rfl
  · have hround := hbound.isDouble.roundPositive_eq hpos
    rw [toRat?_ofRat_of_pos hpos (hround.symm ▸ hbound.lt), hround]

theorem toRat?_ofRat_of_neg (hq : q < 0) (hrange : roundPositive (-q) < twoPow 1024) :
    (ofRat q).toRat? = some (-roundPositive (-q)) := by
  rw [ofRat_eq hq.ne, abs_of_neg hq]
  generalize twoPow 1024 = limit at hrange ⊢
  rw [if_neg (not_le.mpr hrange)]
  rw [if_pos hq, if_pos hq]
  split
  · rename_i hzero
    rw [hzero, neg_zero]
    rfl
  · rfl

/-- The double is finite, with a bound on either side of zero. -/
def Between (l b : Rat) (x : Binary64) : Prop :=
  ∃ v, x.toRat? = some v ∧ -l ≤ v ∧ v ≤ b

/-- Rounding keeps bounds, and the sign. -/
theorem between_ofRat (hl : IsBound l) (hb : IsBound b) (hlow : -l ≤ q) (h : q ≤ b) :
    (ofRat q).Between l b := by
  rcases lt_trichotomy q 0 with hneg | rfl | hpos
  · have hle := hl.isDouble.roundPositive_le (neg_pos.mpr hneg) (neg_le.mp hlow)
    refine ⟨_, toRat?_ofRat_of_neg hneg (hle.trans_lt hl.lt), neg_le_neg hle, ?_⟩
    exact (neg_nonpos.mpr (roundPositive_nonneg (neg_pos.mpr hneg))).trans hb.nonneg
  · rw [ofRat_zero]
    exact ⟨0, rfl, neg_nonpos.mpr hl.nonneg, hb.nonneg⟩
  · have hle := hb.isDouble.roundPositive_le hpos h
    refine ⟨_, toRat?_ofRat_of_pos hpos (hle.trans_lt hb.lt), ?_, hle⟩
    exact (neg_nonpos.mpr hl.nonneg).trans (roundPositive_nonneg hpos)

theorem between_of_toRat?_eq (h : x.toRat? = (ofRat q).toRat?) (hl : IsBound l) (hb : IsBound b)
    (hlow : -l ≤ q) (hle : q ≤ b) : x.Between l b := by
  obtain ⟨v, hv, hbounds⟩ := between_ofRat hl hb hlow hle
  exact ⟨v, h.trans hv, hbounds⟩

theorem Between.mul (hx : x.Between l b) (hy : y.toRat? = some v) (hv : 0 ≤ v) (hl : IsBound l')
    (hb : IsBound b') (hlow : l * v ≤ l') (h : b * v ≤ b') : (x.mul y).Between l' b' := by
  obtain ⟨a, ha, hale, hle⟩ := hx
  refine between_of_toRat?_eq (toRat?_mul ha hy) hl hb ?_
    ((mul_le_mul_of_nonneg_right hle hv).trans h)
  have hscaled := mul_le_mul_of_nonneg_right hale hv
  rw [neg_mul] at hscaled
  exact (neg_le_neg hlow).trans hscaled

theorem Between.add (hx : x.Between l b) (hy : y.toRat? = some v) (hl : IsBound l')
    (hb : IsBound b') (hlow : l ≤ l' + v) (h : b + v ≤ b') : (x.add y).Between l' b' := by
  obtain ⟨a, ha, hale, hle⟩ := hx
  exact between_of_toRat?_eq (toRat?_add ha hy) hl hb (by linarith) (by linarith)

end Binary64

namespace Number

open Binary64 (IsBound isBound_zero isBound_intCast isBound_of_eq)

variable {x : Number} {l l' b b' : Rat}

/-- The number is a double, with a bound on either side of zero. -/
def FloatBetween (l b : Rat) (x : Number) : Prop :=
  ∃ y, x = float y ∧ y.Between l b

theorem gives_quotient_between {m n : Int} (hn : 1 ≤ n) (hl : IsBound l) (hb : IsBound b)
    (hlow : -l ≤ (m : Rat) / n) (h : (m : Rat) / n ≤ b) :
    Gives (quotient m n) (Binary64.Between l b) := by
  have hne : ¬n = 0 := by omega
  rw [quotient, if_neg hne]
  split
  · exact Gives.pure ⟨0, Binary64.toRat?_zero _, neg_nonpos.mpr hl.nonneg, hb.nonneg⟩
  · have hbetween := Binary64.between_ofRat hl hb hlow h
    split
    · rename_i hinfinite
      obtain ⟨v, hv, -⟩ := hbetween
      rw [hinfinite] at hv
      cases hv
    · exact Gives.pure hbetween

theorem gives_dividedBy_between {m n : Int} (hn : 1 ≤ n) (hl : IsBound l) (hb : IsBound b)
    (hlow : -l ≤ (m : Rat) / n) (h : (m : Rat) / n ≤ b) :
    Gives (dividedBy (whole m) (whole n) : Except Fault Number) (FloatBetween l b) := by
  obtain ⟨z, hz, hbetween⟩ := gives_quotient_between hn hl hb hlow h
  refine ⟨float z, ?_, z, rfl, hbetween⟩
  change float <$> quotient m n = _
  rw [hz]
  rfl

theorem gives_times_between (hx : x.FloatBetween l b) {n : Int} (hn : 0 ≤ n ∧ n < 2 ^ 53)
    (hl : IsBound l') (hb : IsBound b') (hlow : l * n ≤ l') (h : b * n ≤ b') :
    Gives (times x (whole n) : Except Fault Number) (FloatBetween l' b') := by
  obtain ⟨y, rfl, hy⟩ := hx
  have hvalue := Binary64.toRat?_ofRat_intCast hn
  have hnonneg : (0 : Rat) ≤ n := by exact_mod_cast hn.1
  refine ⟨float (y.mul (.ofRat n)), ?_, _, rfl, hy.mul hvalue hnonneg hl hb hlow h⟩
  change (do return float (y.mul (← Binary64.ofInt n))) = _
  rw [ofInt_eq hvalue]
  rfl

theorem gives_plus_half (hx : x.FloatBetween l b) (hl : IsBound l') (hb : IsBound b')
    (hlow : l ≤ l' + 1 / 2) (h : b + 1 / 2 ≤ b') :
    Gives (plus x (decimal (1 / 2)) : Except Fault Number) (FloatBetween l' b') := by
  obtain ⟨y, rfl, hy⟩ := hx
  have hvalue : (Binary64.ofRat (1 / 2)).toRat? = some (1 / 2) := by decide +kernel
  exact ⟨_, rfl, _, rfl, hy.add hvalue hl hb hlow h⟩

theorem gives_floor_between (hx : x.FloatBetween l b) :
    Gives (Arithmetic.floor x : Except Fault Int) fun n => -l - 1 < n ∧ (n : Rat) ≤ b := by
  obtain ⟨y, rfl, v, hv, hlow, hle⟩ := hx
  have hbounds : -l - 1 < v.floor ∧ (v.floor : Rat) ≤ b := by
    have hbelow := Rat.floor_le v
    have habove := Rat.lt_floor_add_one v
    push_cast at habove
    exact ⟨by linarith, by linarith⟩
  cases y with
  | finite w =>
    cases hv
    exact Gives.pure hbounds
  | negativeZero =>
    cases hv
    exact Gives.pure hbounds
  | infinite _ => cases hv
  | nan => cases hv

/-- The same for a number that is not below zero, up to an integer. -/
theorem gives_floor_upTo {n : Int} (hx : x.FloatBetween 0 b) (hb : b < n + 1) :
    Gives (Arithmetic.floor x : Except Fault Int) fun k => 0 ≤ k ∧ k ≤ n := by
  refine (gives_floor_between hx).mono fun k ⟨hlow, hhigh⟩ => ⟨?_, ?_⟩
  · have h : (-1 : Rat) < k := by linarith
    exact Int.lt_iff_add_one_le.mp (by exact_mod_cast h)
  · have h : (k : Rat) < n + 1 := hhigh.trans_lt hb
    exact Int.lt_add_one_iff.mp (by exact_mod_cast h)

/-- A number up to a hundred is rounded to an integer up to a hundred. -/
theorem gives_roundHalfUp_upTo_hundred (hx : x.FloatBetween 0 100) :
    Gives (roundHalfUp 0 x : Except Fault Number) (FloatBetween 0 100) := by
  have hhundred : IsBound 100 := isBound_intCast (n := 100) (by decide)
  have hone : (powerOfTen 0 : Number) = whole 1 := rfl
  unfold roundHalfUp
  rw [hone]
  apply Gives.bind
    (gives_times_between hx (by decide) isBound_zero hhundred (by norm_num) (by norm_num))
  intro scaled hscaled
  have hshiftedBound : IsBound (201 / 2) :=
    isBound_of_eq (m := 201) (p := -1) (by rw [twoPow_eq]; norm_num) (by decide) (by decide)
  apply Gives.bind (gives_plus_half hscaled isBound_zero hshiftedBound (by norm_num) (by norm_num))
  intro shifted hshifted
  apply Gives.bind (gives_floor_upTo (n := 100) hshifted (by norm_num))
  intro n ⟨hn, hle⟩
  have hn' : (0 : Rat) ≤ n := by exact_mod_cast hn
  have hle' : (n : Rat) ≤ 100 := by exact_mod_cast hle
  exact gives_dividedBy_between le_rfl isBound_zero hhundred (by simpa using hn')
    (by simpa using hle')

end Number

open Number

/-! ## Groups -/

section

variable {part total : Int}

/-- A part of a whole has a share from zero to one. -/
theorem gives_share (hpart : 0 ≤ part) (hle : part ≤ total) (htotal : 1 ≤ total) :
    Gives (dividedBy (whole part) (whole total) : Except Fault Number) (FloatBetween 0 1) := by
  have hpos : (0 : Rat) < total := by exact_mod_cast htotal
  have hone : Binary64.IsBound 1 := Binary64.isBound_intCast (n := 1) (by decide)
  refine gives_dividedBy_between htotal Binary64.isBound_zero hone ?_ ?_
  · rw [neg_zero]
    exact div_nonneg (by exact_mod_cast hpart) hpos.le
  · rw [div_le_one₀ hpos]
    exact_mod_cast hle

theorem gives_exceeds_share {bound : Rat} (hpart : 0 ≤ part) (hle : part ≤ total) :
    Gives (exceeds (Except Fault) Number part total bound) fun _ => True := by
  unfold exceeds
  split
  · exact Gives.pure trivial
  · apply Gives.bind (gives_share hpart hle (by omega))
    intro share _
    exact Gives.pure trivial

end

variable {r : GroupRecord Number}

/-- A group has a health from zero to a hundred percent. -/
theorem gives_healthPercentage (hfaulty : 0 ≤ r.unitsWithIssues)
    (hle : r.unitsWithIssues ≤ r.totalUnits) :
    Gives (healthPercentage r : Except Fault Int) fun n => 0 ≤ n ∧ n ≤ 100 := by
  have hhundred : Binary64.IsBound 100 := Binary64.isBound_intCast (n := 100) (by decide)
  unfold healthPercentage shareTimes
  dsimp only
  rw [bind_assoc]
  apply Gives.bind (gives_share (by omega) (by omega) (by omega))
  intro share hshare
  apply Gives.bind (gives_times_between hshare (by decide) Binary64.isBound_zero hhundred
    (by norm_num) (by norm_num))
  intro percent hpercent
  apply Gives.bind (gives_roundHalfUp_upTo_hundred hpercent)
  intro rounded hrounded
  exact gives_floor_upTo hrounded (by norm_num)

/-- A group whose units with findings are among its units has a report. -/
theorem exists_groupReport (hfaulty : 0 ≤ r.unitsWithIssues)
    (hle : r.unitsWithIssues ≤ r.totalUnits) (hkinds : distinguishable r.distinctKinds = true) :
    ∃ report, groupReport r = .ok report ∧ report.record = r ∧
      0 ≤ report.healthPercentage ∧ report.healthPercentage ≤ 100 := by
  have hadvice : Gives (recommendations r : Except Fault (List Recommendation)) fun _ => True := by
    unfold recommendations
    split
    · exact Gives.pure trivial
    · dsimp only
      apply Gives.bind (gives_exceeds_share hfaulty hle)
      intro many _
      exact Gives.pure trivial
  have hreport : Gives (groupReport r) fun report => report.record = r ∧
      0 ≤ report.healthPercentage ∧ report.healthPercentage ≤ 100 := by
    unfold groupReport
    apply Gives.bind (gives_healthPercentage hfaulty hle)
    intro health hhealth
    rw [hkinds, Bool.not_true, Bool.and_false]
    apply Gives.bind hadvice
    intro advice _
    exact Gives.pure ⟨rfl, hhealth⟩
  exact hreport

end FlowLint
