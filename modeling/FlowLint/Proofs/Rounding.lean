import FlowLint.Number.Binary64
import Mathlib.Algebra.Order.Field.Power
import Mathlib.Data.Rat.Floor
import Mathlib.Tactic.Linarith
import Mathlib.Tactic.Positivity
import Mathlib.Tactic.Ring

/-!
# Rounding to double precision

A double is an integer of at most 53 bits times a power of two that is not below `2 ^ -1074`.
Rounding gives such a number, keeps those that are, and does not cross a power of two.

* `exponentOf_spec`: the exponent of a positive number is where the powers of two enclose it.
* `IsDouble`: the rationals that a double stands for. `isDouble_roundPositive` and
  `IsDouble.roundPositive_eq` say that they are what rounding gives, and that it keeps them.
* `roundPositive_le`, `le_roundPositive`, `roundPositive_le_of_le_add`: a number on one side of a
  power of two is not rounded to the other side, nor is one that is above it by less than half of
  its last place.
* `exists_ofRat_le`, `representable_ofRat`: what follows for doubles with a sign.
-/

namespace FlowLint

theorem twoPow_eq (e : Int) : twoPow e = (2 : Rat) ^ e := by
  unfold twoPow
  split
  · rename_i h
    obtain ⟨n, rfl⟩ := Int.eq_ofNat_of_zero_le h
    simp
  · rename_i h
    obtain ⟨n, hn⟩ := Int.eq_ofNat_of_zero_le (show 0 ≤ -e by omega)
    obtain rfl : e = -(n : Int) := by omega
    simp

theorem twoPow_pos (e : Int) : 0 < twoPow e := by
  rw [twoPow_eq]
  positivity

theorem twoPow_le_twoPow {e f : Int} (h : e ≤ f) : twoPow e ≤ twoPow f := by
  rw [twoPow_eq, twoPow_eq]
  exact zpow_le_zpow_right₀ (by norm_num) h

theorem twoPow_lt_twoPow {e f : Int} (h : e < f) : twoPow e < twoPow f := by
  rw [twoPow_eq, twoPow_eq]
  exact zpow_lt_zpow_right₀ (by norm_num) h

theorem twoPow_add (e f : Int) : twoPow (e + f) = twoPow e * twoPow f := by
  simp only [twoPow_eq]
  exact zpow_add₀ (by norm_num) e f

theorem twoPow_natCast (n : Nat) : twoPow n = (2 : Rat) ^ n := by
  rw [twoPow_eq, zpow_natCast]

/-- A power of two, counted in units of a smaller one, is an integer. -/
theorem twoPow_div {e f : Int} (h : f ≤ e) :
    twoPow e / twoPow f = ((2 ^ (e - f).toNat : Int) : Rat) := by
  have hexp : e = ((e - f).toNat : Int) + f := by omega
  have hpos := twoPow_pos f
  rw [div_eq_iff hpos.ne', Int.cast_pow, Int.cast_ofNat, ← twoPow_natCast, ← twoPow_add, ← hexp]

theorem lt_of_twoPow_lt {e f : Int} (h : twoPow e < twoPow f) : e < f := by
  by_contra hle
  exact absurd (twoPow_le_twoPow (not_lt.mp hle)) (not_le.mpr h)

/-! ## The nearest integer -/

theorem roundHalfEven_eq_or (q : Rat) :
    (roundHalfEven q = q.floor ∧ q - q.floor ≤ 1 / 2) ∨
      (roundHalfEven q = q.floor + 1 ∧ 1 / 2 ≤ q - q.floor) := by
  unfold roundHalfEven
  simp only
  split
  · rename_i h
    exact .inl ⟨rfl, h.le⟩
  · rename_i h
    split
    · rename_i h'
      exact .inr ⟨rfl, h'.le⟩
    · rename_i h'
      split
      · exact .inl ⟨rfl, not_lt.mp h'⟩
      · exact .inr ⟨rfl, not_lt.mp h⟩

@[simp]
theorem roundHalfEven_intCast (n : Int) : roundHalfEven n = n := by
  simp [roundHalfEven, Rat.floor_intCast]

/-- A number that is above an integer by less than a half is not rounded above it. -/
theorem roundHalfEven_le {q : Rat} {n : Int} (h : q < n + 1 / 2) : roundHalfEven q ≤ n := by
  have hfloor : (q.floor : Rat) ≤ q := Rat.floor_le q
  rcases roundHalfEven_eq_or q with ⟨heq, -⟩ | ⟨heq, hrest⟩
  · rw [heq, ← Int.lt_add_one_iff]
    have : (q.floor : Rat) < n + 1 := by linarith
    exact_mod_cast this
  · rw [heq, Int.add_one_le_iff]
    have : (q.floor : Rat) < n := by linarith
    exact_mod_cast this

theorem le_roundHalfEven {q : Rat} {n : Int} (h : (n : Rat) ≤ q) : n ≤ roundHalfEven q := by
  have hfloor : n ≤ q.floor := Rat.le_floor_iff.mpr h
  rcases roundHalfEven_eq_or q with ⟨heq, -⟩ | ⟨heq, -⟩ <;> omega

namespace Binary64

variable {q : Rat}

/-! ## The exponent -/

/-- The powers of two around a positive number. -/
theorem exponentOf_spec (hq : 0 < q) :
    twoPow (exponentOf q) ≤ q ∧ q < twoPow (exponentOf q + 1) := by
  have hnum : q.num.natAbs ≠ 0 := by
    have := Rat.num_pos.mpr hq
    omega
  have hden : (0 : Rat) < q.den := by exact_mod_cast q.den_pos
  have hfraction : q * q.den = q.num.natAbs := by
    have habs : ((q.num.natAbs : Int) : Rat) = q.num := by
      have := Rat.num_pos.mpr hq
      congr 1
      omega
    rw [← Int.cast_natCast q.num.natAbs, habs]
    exact Rat.mul_den_eq_num q
  have hnumLow : twoPow q.num.natAbs.log2 ≤ q.num.natAbs := by
    rw [twoPow_natCast]
    exact_mod_cast Nat.log2_self_le hnum
  have hnumHigh : (q.num.natAbs : Rat) < twoPow (q.num.natAbs.log2 + 1 : Nat) := by
    rw [twoPow_natCast]
    exact_mod_cast Nat.lt_log2_self
  have hdenLow : twoPow q.den.log2 ≤ q.den := by
    rw [twoPow_natCast]
    exact_mod_cast Nat.log2_self_le q.den_pos.ne'
  have hdenHigh : (q.den : Rat) < twoPow (q.den.log2 + 1 : Nat) := by
    rw [twoPow_natCast]
    exact_mod_cast Nat.lt_log2_self
  generalize hguess : (q.num.natAbs.log2 : Int) - (q.den.log2 : Int) = guess
  -- The guess is right or one too large: it compares the leading bits only.
  have hlow : twoPow (guess - 1) < q := by
    have hsplit :
        twoPow q.num.natAbs.log2 = twoPow (guess - 1) * twoPow (q.den.log2 + 1 : Nat) := by
      rw [← twoPow_add]
      congr 1
      push_cast
      omega
    have hlt : twoPow (guess - 1) * q.den < q * q.den := by
      calc twoPow (guess - 1) * q.den < twoPow (guess - 1) * twoPow (q.den.log2 + 1 : Nat) :=
            mul_lt_mul_of_pos_left hdenHigh (twoPow_pos _)
        _ ≤ q * q.den := by rw [← hsplit, hfraction]; exact hnumLow
    exact lt_of_mul_lt_mul_right hlt hden.le
  have hhigh : q < twoPow (guess + 1) := by
    have hsplit :
        twoPow (q.num.natAbs.log2 + 1 : Nat) = twoPow (guess + 1) * twoPow q.den.log2 := by
      rw [← twoPow_add]
      congr 1
      push_cast
      omega
    have hlt : q * q.den < twoPow (guess + 1) * q.den := by
      calc q * q.den < twoPow (q.num.natAbs.log2 + 1 : Nat) := by rw [hfraction]; exact hnumHigh
        _ ≤ twoPow (guess + 1) * q.den := by
            rw [hsplit]; exact mul_le_mul_of_nonneg_left hdenLow (twoPow_pos _).le
    exact lt_of_mul_lt_mul_right hlt hden.le
  simp only [exponentOf, hguess]
  split
  · rename_i h
    rw [sub_add_cancel]
    exact ⟨hlow.le, h⟩
  · rename_i h
    exact ⟨not_lt.mp h, hhigh⟩

/-- The exponent is the only one whose powers of two enclose the number. -/
theorem exponentOf_eq {e : Int} (hlow : twoPow e ≤ q) (hhigh : q < twoPow (e + 1)) :
    exponentOf q = e := by
  obtain ⟨hlow', hhigh'⟩ := exponentOf_spec ((twoPow_pos e).trans_le hlow)
  have h := lt_of_twoPow_lt (hlow.trans_lt hhigh')
  have h' := lt_of_twoPow_lt (hlow'.trans_lt hhigh)
  omega

theorem exponentOf_le {e : Int} (hq : 0 < q) (h : q ≤ twoPow e) : exponentOf q ≤ e := by
  have hlow := (exponentOf_spec hq).1
  by_contra hlt
  exact absurd (hlow.trans h) (not_le.mpr (twoPow_lt_twoPow (not_le.mp hlt)))

/-! ## Rounding a positive number -/

/-- The size of a double: an integer of at most 53 bits times a power of two. -/
def IsDouble (q : Rat) : Prop :=
  ∃ (m : Int) (p : Int), q = m * twoPow p ∧ m ≤ 2 ^ 53 ∧ -1074 ≤ p

theorem isDouble_roundPositive (hq : 0 < q) : IsDouble (roundPositive q) := by
  refine ⟨_, placeOf q, rfl, ?_, le_max_right _ _⟩
  refine roundHalfEven_le ?_
  have hplace : exponentOf q + 1 ≤ 53 + placeOf q := by
    have : exponentOf q - 52 ≤ placeOf q := le_max_left _ _
    omega
  have hlt : q < twoPow 53 * twoPow (placeOf q) := by
    rw [← twoPow_add]
    exact (exponentOf_spec hq).2.trans_le (twoPow_le_twoPow hplace)
  have hdiv : q / twoPow (placeOf q) < twoPow 53 := (div_lt_iff₀ (twoPow_pos _)).mpr hlt
  have hbits : twoPow 53 = ((2 ^ 53 : Int) : Rat) := by decide
  rw [← hbits]
  linarith

/-- A number that is a whole number of its last places is kept. -/
theorem roundPositive_eq_of_dvd {n : Int} (h : q = n * twoPow (placeOf q)) :
    roundPositive q = q := by
  have hdiv : q / twoPow (placeOf q) = n := by
    rw [div_eq_iff (twoPow_pos _).ne']
    exact h
  simp only [roundPositive, hdiv, roundHalfEven_intCast]
  exact h.symm

/-- Rounding keeps a double. -/
theorem IsDouble.roundPositive_eq (h : IsDouble q) (hq : 0 < q) : roundPositive q = q := by
  obtain ⟨m, p, rfl, hm, hp⟩ := h
  have hbound : (m : Rat) * twoPow p ≤ twoPow (53 + p) := by
    rw [twoPow_add]
    refine mul_le_mul_of_nonneg_right ?_ (twoPow_pos p).le
    have hbits : twoPow 53 = ((2 ^ 53 : Int) : Rat) := by decide
    rw [hbits]
    exact_mod_cast hm
  rcases hbound.lt_or_eq with hlt | heq
  · -- The last place is not above `p`, so it divides `m * 2 ^ p`.
    have hexp : exponentOf (m * twoPow p) < 53 + p :=
      lt_of_twoPow_lt ((exponentOf_spec hq).1.trans_lt hlt)
    have hplace : placeOf (m * twoPow p) ≤ p := max_le (by omega) hp
    refine roundPositive_eq_of_dvd (n := m * 2 ^ (p - placeOf (m * twoPow p)).toNat) ?_
    rw [Int.cast_mul, ← twoPow_div hplace]
    field_simp [(twoPow_pos (placeOf (m * twoPow p))).ne']
  · rw [heq]
    have hexp : exponentOf (twoPow (53 + p)) = 53 + p :=
      exponentOf_eq le_rfl (twoPow_lt_twoPow (lt_add_one _))
    have hplace : placeOf (twoPow (53 + p)) ≤ 53 + p := by
      rw [placeOf, hexp]
      exact max_le (by omega) (by omega)
    refine roundPositive_eq_of_dvd
      (n := 2 ^ (53 + p - placeOf (twoPow (53 + p))).toNat) ?_
    rw [← twoPow_div hplace, div_mul_cancel₀ _ (twoPow_pos _).ne']

/-- A number that is above a whole number of its last places by less than half a place is not
rounded above it. -/
theorem roundPositive_le_of_lt {n : Int} (h : q < (n + 1 / 2) * twoPow (placeOf q)) :
    roundPositive q ≤ n * twoPow (placeOf q) := by
  refine mul_le_mul_of_nonneg_right ?_ (twoPow_pos _).le
  exact_mod_cast roundHalfEven_le ((div_lt_iff₀ (twoPow_pos _)).mpr h)

/-- Rounding does not cross a power of two. -/
theorem roundPositive_le {e : Int} (hq : 0 < q) (he : -1074 ≤ e) (h : q ≤ twoPow e) :
    roundPositive q ≤ twoPow e := by
  have hplace : placeOf q ≤ e := max_le (by have := exponentOf_le hq h; omega) he
  have hpos := twoPow_pos (placeOf q)
  have hwhole : ((2 ^ (e - placeOf q).toNat : Int) : Rat) * twoPow (placeOf q) = twoPow e := by
    rw [← twoPow_div hplace, div_mul_cancel₀ _ hpos.ne']
  rw [← hwhole]
  refine roundPositive_le_of_lt ?_
  rw [add_mul, hwhole]
  linarith

/-- What is added to a power of two is lost if it is less than half of the last place. -/
theorem roundPositive_le_of_le_add {e : Int} (hq : 0 < q) (he : -1022 ≤ e)
    (h : q ≤ twoPow e + twoPow (e - 54)) : roundPositive q ≤ twoPow e := by
  rcases le_or_gt q (twoPow e) with hle | hgt
  · exact roundPositive_le hq (by omega) hle
  · have hsmall := twoPow_lt_twoPow (show e - 54 < e by omega)
    have hdouble : twoPow (e + 1) = twoPow e + twoPow e := by
      rw [twoPow_add, show twoPow 1 = 2 by decide]
      ring
    have hexp : exponentOf q = e := exponentOf_eq hgt.le (by linarith)
    have hplace : placeOf q = e - 52 := by
      rw [placeOf, hexp]
      exact max_eq_left (by omega)
    have hwhole : ((2 ^ 52 : Int) : Rat) * twoPow (placeOf q) = twoPow e := by
      have hbits : ((2 ^ 52 : Int) : Rat) = twoPow 52 := by decide
      rw [hbits, hplace, ← twoPow_add]
      congr 1
      omega
    have hminus : twoPow (-2) = 1 / 4 := by
      rw [twoPow_eq]
      norm_num
    have hquarter : twoPow (e - 54) = 1 / 4 * twoPow (placeOf q) := by
      rw [hplace, show e - 54 = -2 + (e - 52) by omega, twoPow_add, hminus]
    rw [← hwhole]
    refine roundPositive_le_of_lt ?_
    have hpos := twoPow_pos (placeOf q)
    rw [add_mul, hwhole]
    linarith

/-- Rounding does not fall below a power of two. -/
theorem le_roundPositive {e : Int} (he : -1074 ≤ e) (h : twoPow e ≤ q) :
    twoPow e ≤ roundPositive q := by
  have hq : 0 < q := (twoPow_pos _).trans_le h
  rcases le_or_gt (placeOf q) e with hplace | hplace
  · have hwhole : ((2 ^ (e - placeOf q).toNat : Int) : Rat) * twoPow (placeOf q) = twoPow e := by
      rw [← twoPow_div hplace, div_mul_cancel₀ _ (twoPow_pos _).ne']
    rw [← hwhole] at h ⊢
    refine mul_le_mul_of_nonneg_right ?_ (twoPow_pos _).le
    exact_mod_cast le_roundHalfEven ((le_div_iff₀ (twoPow_pos _)).mpr h)
  · -- The last place is above `e`, so a single unit of it is enough.
    have hexp : placeOf q ≤ exponentOf q := by
      rcases max_choice (exponentOf q - 52) (-1074) with heq | heq
      · rw [placeOf, heq]
        omega
      · rw [placeOf, heq] at hplace
        omega
    have hunit : twoPow (placeOf q) ≤ q :=
      (twoPow_le_twoPow hexp).trans (exponentOf_spec hq).1
    have hone : (1 : Int) ≤ roundHalfEven (q / twoPow (placeOf q)) := by
      refine le_roundHalfEven ?_
      rw [Int.cast_one]
      exact (one_le_div₀ (twoPow_pos _)).mpr hunit
    refine (twoPow_le_twoPow hplace.le).trans ?_
    exact le_mul_of_one_le_left (twoPow_pos _).le (by exact_mod_cast hone)

theorem roundPositive_nonneg (hq : 0 < q) : 0 ≤ roundPositive q := by
  refine mul_nonneg ?_ (twoPow_pos _).le
  have : (0 : Int) ≤ roundHalfEven (q / twoPow (placeOf q)) :=
    le_roundHalfEven (by rw [Int.cast_zero]; exact (div_pos hq (twoPow_pos _)).le)
  exact_mod_cast this

/-! ## Rounding with a sign -/

@[simp]
theorem ofRat_zero : ofRat 0 = finite 0 := by
  rw [ofRat, if_pos rfl]

/-- The nearest double of a number that is not zero, by its size. -/
theorem ofRat_eq (hq : q ≠ 0) :
    ofRat q =
      if twoPow 1024 ≤ roundPositive |q| then infinite (q < 0)
      else if roundPositive |q| = 0 then if q < 0 then negativeZero else finite 0
      else finite (if q < 0 then -roundPositive |q| else roundPositive |q|) := by
  have habs : (if q < 0 then -q else q) = |q| := by
    split
    · rename_i h
      exact (abs_of_neg h).symm
    · rename_i h
      exact (abs_of_nonneg (not_lt.mp h)).symm
  rw [ofRat, if_neg hq, habs]

theorem ofRat_ne_nan (q : Rat) : ofRat q ≠ nan := by
  by_cases hq : q = 0
  · rw [hq, ofRat_zero]
    nofun
  · rw [ofRat_eq hq]
    generalize twoPow 1024 = limit
    split_ifs <;> nofun

/-- The nearest double of a positive number within the range of doubles. -/
theorem toRat?_ofRat_of_pos (hq : 0 < q) (hrange : roundPositive q < twoPow 1024) :
    (ofRat q).toRat? = some (roundPositive q) := by
  rw [ofRat_eq hq.ne', abs_of_pos hq]
  generalize twoPow 1024 = limit at hrange ⊢
  rw [if_neg (not_le.mpr hrange)]
  split
  · rename_i h
    rw [if_neg hq.le.not_gt, h]
    rfl
  · rw [if_neg hq.le.not_gt]
    rfl

/-- A number whose size is not rounded above a bound within the range of doubles is not either. -/
theorem exists_ofRat_le {b : Rat} (hb : 0 ≤ b) (hrange : b < twoPow 1024)
    (h : q ≠ 0 → roundPositive |q| ≤ b) : ∃ v, (ofRat q).toRat? = some v ∧ |v| ≤ b := by
  have hzero : |(0 : Rat)| ≤ b := by
    rw [abs_zero]
    exact hb
  by_cases hq : q = 0
  · rw [hq, ofRat_zero]
    exact ⟨0, rfl, hzero⟩
  · have hle := h hq
    have hnonneg := roundPositive_nonneg (abs_pos.mpr hq)
    rw [ofRat_eq hq]
    generalize twoPow 1024 = limit at hrange ⊢
    rw [if_neg (not_le.mpr (hle.trans_lt hrange))]
    split
    · split <;> exact ⟨0, rfl, hzero⟩
    · refine ⟨_, rfl, ?_⟩
      split
      · rwa [abs_neg, abs_of_nonneg hnonneg]
      · rwa [abs_of_nonneg hnonneg]

/-- A number with the value of a double, if it is finite. -/
def Representable : Binary64 → Prop
  | finite v => ofRat v = finite v
  | _ => True

/-- Rounding keeps what it gives. -/
theorem representable_ofRat (q : Rat) : (ofRat q).Representable := by
  have hzero : (finite 0).Representable := ofRat_zero
  by_cases hq : q = 0
  · rwa [hq, ofRat_zero]
  · have hpos := abs_pos.mpr hq
    generalize hsize : roundPositive |q| = size
    have hnonneg : 0 ≤ size := hsize ▸ roundPositive_nonneg hpos
    have hfix : size ≠ 0 → roundPositive size = size := fun hne =>
      (hsize ▸ isDouble_roundPositive hpos).roundPositive_eq (lt_of_le_of_ne hnonneg hne.symm)
    generalize hvalue : (if q < 0 then -size else size) = value
    have habs : |value| = size := by
      rw [← hvalue]
      split
      · rw [abs_neg, abs_of_nonneg hnonneg]
      · exact abs_of_nonneg hnonneg
    rw [ofRat_eq hq, hsize, hvalue]
    split
    · trivial
    · rename_i hrange
      split
      · split
        · trivial
        · exact hzero
      · rename_i hne
        have hvalue0 : value ≠ 0 := abs_ne_zero.mp (habs ▸ hne)
        have hsign : value < 0 ↔ q < 0 := by
          rw [← hvalue]
          split
          · rename_i hneg
            simpa [hneg] using lt_of_le_of_ne hnonneg (Ne.symm hne)
          · rename_i hneg
            simpa [hneg] using hnonneg
        rw [Representable, ofRat_eq hvalue0, habs, hfix hne, if_neg hrange, if_neg hne]
        simp only [hsign, hvalue]

/-- A number that is not too small is not rounded to a zero. -/
theorem ofRat_ne_zero (h : twoPow (-1074) ≤ |q|) :
    ofRat q ≠ negativeZero ∧ ofRat q ≠ finite 0 := by
  have hq : q ≠ 0 := by
    rintro rfl
    rw [abs_zero] at h
    exact absurd h (not_le.mpr (twoPow_pos _))
  have hsize := (twoPow_pos _).trans_le (le_roundPositive le_rfl h)
  rw [ofRat_eq hq, if_neg hsize.ne']
  split
  · exact ⟨nofun, nofun⟩
  · refine ⟨nofun, fun heq => ?_⟩
    have hzero := finite.inj heq
    split at hzero <;> linarith

end Binary64

end FlowLint
