import FlowLint.Number.Reading
import Mathlib.Algebra.Group.Nat.Defs
import Mathlib.Data.List.Forall2
import Mathlib.Data.List.Induction

/-!
# Numerals

A numeral is what people write for a number in a radix: its digits, letters in either case, with
any number of zeros in front.

* `IsNumeral`: some characters are a numeral of a number, in terms of `Nat.toDigits`.
* `exists_isNumeral_iff`: any digits, at least one, are a numeral of some number.
* `IsNumeral.spells`: the values of the digits, as they are read, stand for that number.
* `IsNumeral.lt_pow`: a numeral bounds its number by its length.
-/

namespace FlowLint.Reading

/-! ## Digits -/

/-- A character is the digit of a value, a letter in either case. -/
def IsDigitOf (v : Nat) (c : Char) : Prop :=
  c = v.digitChar ∨ c = v.digitChar.toUpper

instance (v : Nat) (c : Char) : Decidable (IsDigitOf v c) :=
  inferInstanceAs (Decidable (c = v.digitChar ∨ c = v.digitChar.toUpper))

/-- A property of the digits of all values below a bound is checked digit by digit. -/
@[elab_as_elim]
theorem IsDigitOf.of_all {motive : Nat → Char → Prop} {bound v : Nat} {c : Char}
    (hc : IsDigitOf v c) (hv : v < bound)
    (h : ∀ v < bound, motive v v.digitChar ∧ motive v v.digitChar.toUpper) : motive v c := by
  rcases hc with rfl | rfl
  · exact (h v hv).1
  · exact (h v hv).2

/-- Some characters are the digits of values in a radix. -/
def Spells (radix : Nat) (digits : List Char) (values : List Nat) : Prop :=
  List.Forall₂ (fun c v => v < radix ∧ IsDigitOf v c) digits values

theorem exists_spells_iff {radix : Nat} {digits : List Char} :
    (∃ values, Spells radix digits values) ↔ ∀ c ∈ digits, ∃ v < radix, IsDigitOf v c := by
  induction digits with
  | nil => simp [Spells]
  | cons c digits ih =>
    rw [List.forall_mem_cons, ← ih]
    constructor
    · rintro ⟨values, h⟩
      obtain ⟨v, values, hv, hvalues, rfl⟩ := List.forall₂_cons_left_iff.mp h
      exact ⟨⟨v, hv⟩, values, hvalues⟩
    · rintro ⟨⟨v, hv⟩, values, hvalues⟩
      exact ⟨v :: values, .cons hv hvalues⟩

theorem Spells.lt {radix : Nat} {digits : List Char} {values : List Nat}
    (h : Spells radix digits values) : ∀ v ∈ values, v < radix :=
  ((List.forall₂_and_left _ _).mp h.flip).1

/-- What all digits below a radix have, the digits of a numeral have. -/
theorem Spells.forall_mem {p : Char → Prop} {radix : Nat} {digits : List Char} {values : List Nat}
    (h : Spells radix digits values)
    (hp : ∀ v < radix, p v.digitChar ∧ p v.digitChar.toUpper) : ∀ c ∈ digits, p c := by
  intro c hc
  obtain ⟨v, hv, hdigit⟩ := exists_spells_iff.mp ⟨values, h⟩ c hc
  exact hdigit.of_all hv hp

section Digit

variable {radix v : Nat} {c : Char}

/-- The radix bounds the value of a digit and has no other part in it. -/
theorem exists_radixValue?_eq (c : Char) :
    ∃ value : Option Nat, ∀ radix, Text.radixValue? radix c = value.filter (· < radix) := by
  have hbound (value : Option Nat) (radix : Nat) :
      (do let v ← value; if v < radix then some v else none) = value.filter (· < radix) := by
    cases value <;> simp [Option.filter]
  unfold Text.radixValue?
  cases Text.decimalValue? c with
  | some v => exact ⟨_, hbound (some v)⟩
  | none =>
    dsimp only
    split
    · exact ⟨_, hbound (some _)⟩
    split
    · exact ⟨_, hbound (some _)⟩
    · exact ⟨_, hbound none⟩

theorem radixValue?_lt (h : Text.radixValue? radix c = some v) : v < radix := by
  obtain ⟨value, hvalue⟩ := exists_radixValue?_eq c
  rw [hvalue, Option.filter_eq_some_iff] at h
  simpa using h.2

/-- A value that a digit has in a radix, it has in every radix that is large enough for it. -/
theorem radixValue?_eq_of_lt {radix' : Nat} (h : Text.radixValue? radix' c = some v)
    (hv : v < radix) : Text.radixValue? radix c = some v := by
  obtain ⟨value, hvalue⟩ := exists_radixValue?_eq c
  rw [hvalue, Option.filter_eq_some_iff] at h ⊢
  exact ⟨h.1, by simpa using hv⟩

theorem radixValue?_eq (hv : v < radix) (hc : IsDigitOf v c) (hradix : radix ≤ 16) :
    Text.radixValue? radix c = some v := by
  have hvalue : Text.radixValue? 16 c = some v := hc.of_all (show v < 16 by omega) (by decide)
  exact radixValue?_eq_of_lt hvalue hv

/-- A property of characters that ASCII has only is checked character by character. -/
theorem forall_of_ascii {p : Char → Prop} (h : ∀ n < 128, p (Char.ofNat n))
    (hc : c.toNat < 128) : p c := by
  have := h c.toNat hc
  rwa [Char.ofNat_toNat] at this

theorem toNat_lt_of_le {d : Char} (hc : c ≤ d) (hd : d.toNat < 128) : c.toNat < 128 :=
  Nat.lt_of_le_of_lt (show c.toNat ≤ d.toNat from hc) hd

theorem isHexDigit_iff : Text.isHexDigit c = true ↔ ∃ v < 16, IsDigitOf v c := by
  constructor
  · intro h
    refine forall_of_ascii (p := fun c => Text.isHexDigit c = true → ∃ v < 16, IsDigitOf v c)
      (by decide) ?_ h
    simp only [Text.isHexDigit, Char.isDigit, Bool.or_eq_true, Bool.and_eq_true,
      decide_eq_true_eq] at h
    obtain (⟨-, h⟩ | ⟨-, h⟩) | ⟨-, h⟩ := h
    · exact toNat_lt_of_le (d := '9') h (by decide)
    · exact toNat_lt_of_le h (by decide)
    · exact toNat_lt_of_le h (by decide)
  · rintro ⟨v, hv, hc⟩
    exact hc.of_all hv (by decide)

theorem isOctalDigit_iff : Text.isOctalDigit c = true ↔ ∃ v < 8, IsDigitOf v c := by
  constructor
  · intro h
    refine forall_of_ascii (p := fun c => Text.isOctalDigit c = true → ∃ v < 8, IsDigitOf v c)
      (by decide) ?_ h
    simp only [Text.isOctalDigit, Bool.and_eq_true, decide_eq_true_eq] at h
    exact toNat_lt_of_le h.2 (by decide)
  · rintro ⟨v, hv, hc⟩
    exact hc.of_all hv (by decide)

theorem isDigit_of_isOctalDigit (h : Text.isOctalDigit c = true) : Text.isDigit c = true := by
  obtain ⟨v, hv, hc⟩ := isOctalDigit_iff.mp h
  exact hc.of_all hv (by decide)

end Digit

/-! ## Values -/

section Values

variable {radix : Nat} {values : List Nat}

theorem ofDigits_concat (values : List Nat) (v : Nat) :
    ofDigits radix (values ++ [v]) = ofDigits radix values * radix + v := by
  simp [ofDigits]

/-- Zeros in front do not count. -/
theorem ofDigits_zeros (zeros : Nat) (values : List Nat) :
    ofDigits radix (List.replicate zeros 0 ++ values) = ofDigits radix values := by
  induction zeros with
  | zero => rfl
  | succ zeros ih =>
    rw [List.replicate_succ, List.cons_append, ← ih]
    simp [ofDigits]

theorem ofDigits_lt_pow (h : ∀ v ∈ values, v < radix) :
    ofDigits radix values < radix ^ values.length := by
  induction values using List.reverseRecOn with
  | nil => simp [ofDigits]
  | append_singleton values v ih =>
    obtain ⟨hvalues, hv⟩ : (∀ w ∈ values, w < radix) ∧ v < radix := by
      simpa [or_imp, forall_and] using h
    have hrest := ih hvalues
    calc ofDigits radix (values ++ [v]) = ofDigits radix values * radix + v := ofDigits_concat _ _
      _ < ofDigits radix values * radix + radix := by omega
      _ = (ofDigits radix values + 1) * radix := by rw [Nat.succ_mul]
      _ ≤ radix ^ values.length * radix := Nat.mul_le_mul_right _ hrest
      _ = radix ^ (values ++ [v]).length := by simp [Nat.pow_succ]

/-- The usual digits of a number, by their values. -/
theorem exists_values_toDigits (hradix : 1 < radix) (n : Nat) :
    ∃ values, Nat.toDigits radix n = values.map Nat.digitChar ∧ (∀ v ∈ values, v < radix) ∧
      ofDigits radix values = n := by
  induction n using Nat.base_induction radix hradix with
  | single m hm =>
    exact ⟨[m], Nat.toDigits_of_lt_base hm, by simpa using hm, by simp [ofDigits]⟩
  | digit m v hv hm ih =>
    obtain ⟨values, hdigits, hlt, hvalue⟩ := ih
    refine ⟨values ++ [v], ?_, ?_, ?_⟩
    · rw [← Nat.toDigits_append_toDigits hradix hm hv, hdigits, Nat.toDigits_of_lt_base hv]
      simp
    · simpa [or_imp, forall_and] using ⟨hlt, hv⟩
    · rw [ofDigits_concat, hvalue, Nat.mul_comm]

/-- The digits of some values are the usual ones of the number they stand for, but for zeros in
front. -/
theorem exists_zeros (hradix : 1 < radix) (hne : values ≠ []) (h : ∀ v ∈ values, v < radix) :
    ∃ zeros, values.map Nat.digitChar =
      List.replicate zeros '0' ++ Nat.toDigits radix (ofDigits radix values) := by
  induction values using List.reverseRecOn with
  | nil => exact absurd rfl hne
  | append_singleton values v ih =>
    obtain ⟨hvalues, hv⟩ : (∀ w ∈ values, w < radix) ∧ v < radix := by
      simpa [or_imp, forall_and] using h
    have hlast : Nat.toDigits radix v = [v.digitChar] := Nat.toDigits_of_lt_base hv
    rw [ofDigits_concat, Nat.mul_comm, List.map_append]
    by_cases hempty : values = []
    · subst hempty
      exact ⟨0, by simp [ofDigits, hlast]⟩
    · obtain ⟨zeros, hdigits⟩ := ih hempty hvalues
      rcases Nat.eq_zero_or_pos (ofDigits radix values) with hzero | hpos
      · -- All digits so far are zeros, and the last one is the number.
        refine ⟨zeros + 1, ?_⟩
        rw [hdigits, hzero, Nat.toDigits_zero, Nat.mul_zero, Nat.zero_add, hlast,
          List.replicate_succ']
        rfl
      · refine ⟨zeros, ?_⟩
        rw [hdigits, ← Nat.toDigits_append_toDigits hradix hpos hv, hlast]
        simp

end Values

/-! ## Numerals -/

/-- Some characters are the digits of a number in a radix, letters in either case, after any
number of zeros. -/
def IsNumeral (radix n : Nat) (digits : List Char) : Prop :=
  ∃ zeros, List.Forall₂ (fun d c => c = d ∨ c = d.toUpper)
    (List.replicate zeros '0' ++ Nat.toDigits radix n) digits

section Numeral

variable {radix n : Nat} {digits : List Char} {values : List Nat}

/-- A numeral spells values that stand for its number. -/
theorem IsNumeral.spells (h : IsNumeral radix n digits) (hradix : 1 < radix) :
    ∃ values, Spells radix digits values ∧ ofDigits radix values = n := by
  obtain ⟨zeros, hdigits⟩ := h
  obtain ⟨values, hvalues, hlt, rfl⟩ := exists_values_toDigits hradix n
  have hall : ∀ v ∈ List.replicate zeros 0 ++ values, v < radix := by
    intro v hv
    rcases List.mem_append.mp hv with hv | hv
    · rw [List.eq_of_mem_replicate hv]
      omega
    · exact hlt v hv
  have hzeros : List.replicate zeros '0' ++ Nat.toDigits radix (ofDigits radix values) =
      (List.replicate zeros 0 ++ values).map Nat.digitChar := by
    rw [hvalues, List.map_append, List.map_replicate]
    rfl
  rw [hzeros, List.forall₂_map_left_iff] at hdigits
  refine ⟨_, ?_, ofDigits_zeros zeros values⟩
  exact ((List.forall₂_and_left _ _).mpr ⟨hall, hdigits⟩).flip

theorem IsNumeral.ne_nil (h : IsNumeral radix n digits) : digits ≠ [] := by
  rintro rfl
  obtain ⟨zeros, hzeros⟩ := h
  have hnil := List.forall₂_nil_right_iff.mp hzeros
  exact Nat.toDigits_ne_nil (List.append_eq_nil_iff.mp hnil).2

theorem Spells.values_ne_nil (h : Spells radix digits values) (hne : digits ≠ []) :
    values ≠ [] := by
  rintro rfl
  exact hne (List.forall₂_nil_right_iff.mp h)

/-- What all digits up to a bound have, the digits of a numeral have. -/
theorem IsNumeral.forall_mem {p : Char → Prop} {bound : Nat} (h : IsNumeral radix n digits)
    (hradix : 1 < radix) (hbound : radix ≤ bound)
    (hp : ∀ v < bound, p v.digitChar ∧ p v.digitChar.toUpper) : ∀ c ∈ digits, p c := by
  obtain ⟨values, hvalues, -⟩ := h.spells hradix
  exact hvalues.forall_mem fun v hv => hp v (Nat.lt_of_lt_of_le hv hbound)

theorem isNumeral_toDigits : IsNumeral radix n (Nat.toDigits radix n) :=
  ⟨0, List.forall₂_same.mpr fun _ _ => .inl rfl⟩

/-- Another zero may stand in front. -/
theorem IsNumeral.zero_cons (h : IsNumeral radix n digits) : IsNumeral radix n ('0' :: digits) := by
  obtain ⟨zeros, hdigits⟩ := h
  exact ⟨zeros + 1, .cons (.inl rfl) hdigits⟩

/-- Digits are a numeral of the number that their values stand for. -/
theorem Spells.isNumeral (h : Spells radix digits values) (hne : digits ≠ [])
    (hradix : 1 < radix) : IsNumeral radix (ofDigits radix values) digits := by
  obtain ⟨zeros, hzeros⟩ := exists_zeros hradix (h.values_ne_nil hne) h.lt
  refine ⟨zeros, ?_⟩
  rw [← hzeros, List.forall₂_map_left_iff]
  exact h.flip.imp fun _ _ => And.right

/-- Any digits, at least one, are a numeral. -/
theorem exists_isNumeral_iff (hradix : 1 < radix) :
    (∃ n, IsNumeral radix n digits) ↔ digits ≠ [] ∧ ∀ c ∈ digits, ∃ v < radix, IsDigitOf v c := by
  rw [← exists_spells_iff]
  constructor
  · rintro ⟨n, h⟩
    obtain ⟨values, hvalues, -⟩ := h.spells hradix
    exact ⟨h.ne_nil, values, hvalues⟩
  · rintro ⟨hne, values, hvalues⟩
    exact ⟨_, hvalues.isNumeral hne hradix⟩

theorem exists_isNumeral_hex_iff :
    (∃ n, IsNumeral 16 n digits) ↔ digits ≠ [] ∧ ∀ c ∈ digits, Text.isHexDigit c := by
  simp only [exists_isNumeral_iff (show 1 < 16 by decide), isHexDigit_iff]

theorem exists_isNumeral_octal_iff :
    (∃ n, IsNumeral 8 n digits) ↔ digits ≠ [] ∧ ∀ c ∈ digits, Text.isOctalDigit c := by
  simp only [exists_isNumeral_iff (show 1 < 8 by decide), isOctalDigit_iff]

/-- A numeral bounds its number by its length. -/
theorem IsNumeral.lt_pow (h : IsNumeral radix n digits) (hradix : 1 < radix) :
    n < radix ^ digits.length := by
  obtain ⟨values, hvalues, rfl⟩ := h.spells hradix
  rw [hvalues.length_eq]
  exact ofDigits_lt_pow hvalues.lt

end Numeral

/-! ## Reading digits -/

section Read

variable {radix : Nat} {digits : List Char} {values : List Nat}
  (h : Spells radix digits values) (hradix : radix ≤ 16)

include h hradix

theorem Spells.mapM_eq : digits.mapM (Text.radixValue? radix) = some values := by
  induction h with
  | nil => rfl
  | cons hc _ ih =>
    rw [List.mapM_cons, radixValue?_eq hc.1 hc.2 hradix, ih]
    rfl

theorem Spells.filterMap_eq : digits.filterMap (Text.radixValue? radix) = values := by
  induction h with
  | nil => rfl
  | cons hc _ ih => rw [List.filterMap_cons_some (radixValue?_eq hc.1 hc.2 hradix), ih]

/-- Digits without underscores are read one by one. -/
theorem Spells.digitValues_eq (hne : digits ≠ []) : digitValues radix digits = some values := by
  induction h with
  | nil => exact absurd rfl hne
  | @cons c v digits values hc hdigits ih =>
    have hv := radixValue?_eq hc.1 hc.2 hradix
    cases hdigits with
    | nil => simp [digitValues, hv]
    | @cons d w digits values hd hdigits =>
      have hunderscore : d ≠ '_' :=
        hd.2.of_all (show w < 16 by omega) (by decide)
      rw [digitValues, hv, ih (List.cons_ne_nil _ _)]
      · rfl
      · exact fun _ _ heq _ => hunderscore heq

end Read

end FlowLint.Reading
