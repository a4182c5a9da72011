import FlowLint.Store.Timestamp
import Mathlib.Tactic.Linarith
import Mathlib.Tactic.Ring

/-!
# Days and their texts

The days of the calendar are counted from the first of January of year 1. A day is written with
leading zeros, so that its text has the same length for all days, and texts are in the order of
the days.

* `SameOrder`: two texts are compared as two numbers are. `SameOrder.append` puts a text for the
  larger part of a number in front of one for the smaller part.
* `Day.InCalendar.previous?`, `Day.InCalendar.exists_before?`: going back a number of days takes
  that number off.
* `Day.sameOrder_text`: the texts of days are in the order of the days.
* `Day.ofText_text`: a day is read from its text.
-/

namespace FlowLint

/-! ## Texts in the order of numbers -/

/-- Two texts are compared as two numbers are. -/
structure SameOrder (xs ys : List Char) (m n : Int) : Prop where
  lt_iff : xs < ys ↔ m < n
  eq_iff : xs = ys ↔ m = n

theorem append_lt_append_iff {xs ys xs' ys' : List Char} (hlength : xs.length = ys.length) :
    xs ++ xs' < ys ++ ys' ↔ xs < ys ∨ xs = ys ∧ xs' < ys' := by
  induction xs generalizing ys with
  | nil =>
    cases ys with
    | nil => simp
    | cons y ys => cases hlength
  | cons x xs ih =>
    cases ys with
    | nil => cases hlength
    | cons y ys =>
      have hrest := ih (Nat.succ.inj hlength)
      rw [List.cons_append, List.cons_append, List.cons_lt_cons_iff, List.cons_lt_cons_iff, hrest,
        List.cons.injEq]
      tauto

/-- A number with a larger and a smaller part is compared by the larger part first. -/
theorem mixed_lt_iff {k m n r s : Int} (hr : 0 ≤ r ∧ r < k) (hs : 0 ≤ s ∧ s < k) :
    m * k + r < n * k + s ↔ m < n ∨ m = n ∧ r < s := by
  rcases lt_trichotomy m n with h | rfl | h
  · have hstep : (m + 1) * k ≤ n * k := mul_le_mul_of_nonneg_right h (by omega)
    rw [add_mul, one_mul] at hstep
    simp only [h, true_or, iff_true]
    omega
  · simp
  · have hstep : (n + 1) * k ≤ m * k := mul_le_mul_of_nonneg_right h (by omega)
    rw [add_mul, one_mul] at hstep
    have hne : ¬(m < n ∨ m = n ∧ r < s) := by omega
    simp only [hne, iff_false]
    omega

theorem mixed_eq_iff {k m n r s : Int} (hr : 0 ≤ r ∧ r < k) (hs : 0 ≤ s ∧ s < k) :
    m * k + r = n * k + s ↔ m = n ∧ r = s := by
  have hlt := mixed_lt_iff (m := m) (n := n) hr hs
  have hgt := mixed_lt_iff (m := n) (n := m) hs hr
  constructor
  · intro h
    omega
  · rintro ⟨rfl, rfl⟩
    rfl

namespace SameOrder

variable {xs ys xs' ys' : List Char} {m n r s : Int}

theorem refl (xs : List Char) (n : Int) : SameOrder xs xs n n :=
  ⟨iff_of_false (List.lt_irrefl xs) (lt_irrefl n), iff_of_true rfl rfl⟩

theorem of_lt_of_lt (h : xs < ys) (h' : m < n) : SameOrder xs ys m n where
  lt_iff := iff_of_true h h'
  eq_iff := by
    refine iff_of_false ?_ h'.ne
    rintro rfl
    exact List.lt_irrefl xs h

theorem symm (h : SameOrder xs ys m n) : SameOrder ys xs n m where
  lt_iff := by
    constructor
    · intro hlt
      have hnot : ¬m < n := fun h' => List.lt_asymm hlt (h.lt_iff.mpr h')
      have hne : m ≠ n := fun h' => List.lt_irrefl xs (h.eq_iff.mpr h' ▸ hlt)
      omega
    · intro hlt
      have hnot : ¬xs < ys := fun h' => hlt.asymm (h.lt_iff.mp h')
      exact (List.le_iff_lt_or_eq.mp hnot).resolve_right fun heq =>
        hlt.ne' (h.eq_iff.mp heq.symm)
  eq_iff := eq_comm.trans (h.eq_iff.trans eq_comm)

/-- The same texts, and numbers that are compared in the same way. -/
theorem mono (h : SameOrder xs ys m n) {m' n' : Int} (hlt : m < n → m' < n')
    (hgt : n < m → n' < m') (heq : m = n → m' = n') : SameOrder xs ys m' n' := by
  refine ⟨h.lt_iff.trans ⟨hlt, fun h' => ?_⟩, h.eq_iff.trans ⟨heq, fun h' => ?_⟩⟩
  · by_contra hnot
    rcases (not_lt.mp hnot).eq_or_lt with heq' | hlt'
    · exact absurd (heq heq'.symm) h'.ne
    · exact absurd (hgt hlt') h'.asymm
  · rcases lt_trichotomy m n with hlt' | heq' | hlt'
    · exact absurd h' (hlt hlt').ne
    · exact heq'
    · exact absurd h' (hgt hlt').ne'

/-- A text for the larger part of a number, and after it one for the smaller part. -/
theorem append (h : SameOrder xs ys m n) (hlength : xs.length = ys.length)
    (h' : SameOrder xs' ys' r s) {k : Int} (hr : 0 ≤ r ∧ r < k) (hs : 0 ≤ s ∧ s < k) :
    SameOrder (xs ++ xs') (ys ++ ys') (m * k + r) (n * k + s) where
  lt_iff := by rw [append_lt_append_iff hlength, h.lt_iff, h.eq_iff, h'.lt_iff, mixed_lt_iff hr hs]
  eq_iff := by
    rw [List.append_eq_append_iff_of_size_eq_left hlength, h.eq_iff, h'.eq_iff, mixed_eq_iff hr hs]

/-- The same character in front of both texts makes no difference. -/
theorem cons (c : Char) (h : SameOrder xs ys m n) : SameOrder (c :: xs) (c :: ys) m n where
  lt_iff := by rw [List.cons_lt_cons_self, h.lt_iff]
  eq_iff := by rw [List.cons_inj_right, h.eq_iff]

end SameOrder

namespace Day

/-! ## Numbers with leading zeros -/

theorem padded_one {n : Nat} (h : n < 10) : padded 1 n = [n.digitChar] := by
  rw [padded, Nat.toDigits_of_lt_base h]
  rfl

/-- The last digit of a number, and those before it. -/
theorem padded_succ {width n : Nat} (hwidth : 0 < width) :
    padded (width + 1) n = padded width (n / 10) ++ [(n % 10).digitChar] := by
  unfold padded
  by_cases h : n < 10
  · rw [Nat.toDigits_of_lt_base h, Nat.div_eq_of_lt h, Nat.mod_eq_of_lt h,
      Nat.toDigits_of_lt_base (by decide)]
    obtain ⟨k, rfl⟩ := Nat.exists_eq_add_of_lt hwidth
    simp [List.replicate_succ']
  · have hdigits : Nat.toDigits 10 n = Nat.toDigits 10 (n / 10) ++ [(n % 10).digitChar] := by
      rw [Nat.toDigits_eq_if (by decide), if_neg h]
    simp [hdigits]

@[simp]
theorem length_padded {width n : Nat} (hwidth : 0 < width) (h : n < 10 ^ width) :
    (padded width n).length = width := by
  have hle := (Nat.length_toDigits_le_iff (b := 10) (by decide) hwidth).mpr h
  simp [padded, hle]

theorem digitChar_lt_iff {m n : Nat} (hm : m < 10) (hn : n < 10) :
    m.digitChar < n.digitChar ↔ m < n := by
  have hchar : m.digitChar < n.digitChar ↔ m.digitChar.toNat < n.digitChar.toNat := Iff.rfl
  rw [hchar, Nat.toNat_digitChar_of_lt_ten hm, Nat.toNat_digitChar_of_lt_ten hn]
  omega

theorem sameOrder_digit {m n : Nat} (hm : m < 10) (hn : n < 10) :
    SameOrder [m.digitChar] [n.digitChar] m n where
  lt_iff := by
    rw [List.cons_lt_cons_iff, digitChar_lt_iff hm hn]
    simp
  eq_iff := by
    constructor
    · intro h
      have hchar := congrArg Char.toNat (List.head_eq_of_cons_eq h)
      rw [Nat.toNat_digitChar_of_lt_ten hm, Nat.toNat_digitChar_of_lt_ten hn] at hchar
      omega
    · intro h
      rw [Int.natCast_inj.mp h]

/-- Numbers with leading zeros are in the order of the numbers. -/
theorem sameOrder_padded {width m n : Nat} (hwidth : 0 < width) (hm : m < 10 ^ width)
    (hn : n < 10 ^ width) : SameOrder (padded width m) (padded width n) m n := by
  induction width, hwidth using Nat.le_induction generalizing m n with
  | base =>
    rw [padded_one hm, padded_one hn]
    exact sameOrder_digit hm hn
  | succ width hwidth ih =>
    have hm' : m / 10 < 10 ^ width := by
      rw [pow_succ] at hm
      omega
    have hn' : n / 10 < 10 ^ width := by
      rw [pow_succ] at hn
      omega
    rw [padded_succ hwidth, padded_succ hwidth]
    have hlength : (padded width (m / 10)).length = (padded width (n / 10)).length := by
      rw [length_padded hwidth hm', length_padded hwidth hn']
    have hboth := (ih hm' hn').append hlength
      (sameOrder_digit (Nat.mod_lt m (by decide)) (Nat.mod_lt n (by decide)))
      (k := 10) (by omega) (by omega)
    have hsplit (a : Nat) : ((a / 10 : Nat) : Int) * 10 + ((a % 10 : Nat) : Int) = a := by omega
    rwa [hsplit, hsplit] at hboth

theorem number_concat (digits : List Char) (c : Char) :
    number (digits ++ [c]) = number digits * 10 + (c.toNat - '0'.toNat) := by
  simp [number]

/-- A number is read from its digits. -/
theorem number_padded {width n : Nat} (hwidth : 0 < width) (h : n < 10 ^ width) :
    number (padded width n) = n := by
  have hdigit {d : Nat} (hd : d < 10) : d.digitChar.toNat - '0'.toNat = d := by
    rw [Nat.toNat_digitChar_of_lt_ten hd]
    simp
  induction width, hwidth using Nat.le_induction generalizing n with
  | base =>
    rw [padded_one h, ← List.nil_append [n.digitChar], number_concat, hdigit h]
    simp [number]
  | succ width hwidth ih =>
    have hrest : n / 10 < 10 ^ width := by
      rw [pow_succ] at h
      omega
    rw [padded_succ hwidth, number_concat, ih hrest, hdigit (Nat.mod_lt n (by decide))]
    omega

/-- A number is read from where its digits are in a text. -/
theorem number_field (before after : List Char) {position width n : Nat}
    (hposition : before.length = position) (hwidth : 0 < width) (h : n < 10 ^ width) :
    number (((before ++ (padded width n ++ after)).drop position).take width) = n := by
  rw [List.drop_left' hposition, List.take_left' (length_padded hwidth h), number_padded hwidth h]

/-! ## Counting days -/

/-- The days of the first months of a year. -/
def monthsLength (year : Nat) : Nat → Nat
  | 0 => 0
  | months + 1 => monthsLength year months + lastOf year (months + 1)

/-- The days of the first years of the calendar. -/
def yearsLength : Nat → Nat
  | 0 => 0
  | years + 1 => yearsLength years + monthsLength (years + 1) 12

/-- How many days of the calendar come before a day. -/
def index (d : Day) : Int :=
  (yearsLength (d.year - 1) + monthsLength d.year (d.month - 1) + d.day : Int) - 1

/-- The calendar has a day: its years are those of four digits. -/
structure InCalendar (d : Day) : Prop where
  year : 1 ≤ d.year ∧ d.year ≤ 9999
  month : 1 ≤ d.month ∧ d.month ≤ 12
  day : 1 ≤ d.day ∧ d.day ≤ lastOf d.year d.month

theorem lastOf_bounds (year month : Nat) : 28 ≤ lastOf year month ∧ lastOf year month ≤ 31 := by
  unfold lastOf
  split_ifs <;> omega

theorem monthsLength_mono (year : Nat) {months months' : Nat} (h : months ≤ months') :
    monthsLength year months ≤ monthsLength year months' :=
  monotone_nat_of_le_succ (fun _ => Nat.le_add_right _ _) h

theorem yearsLength_mono {years years' : Nat} (h : years ≤ years') :
    yearsLength years ≤ yearsLength years' :=
  monotone_nat_of_le_succ (fun _ => Nat.le_add_right _ _) h

namespace InCalendar

variable {d d' : Day}

/-- A day comes before the first one of the next month. -/
theorem index_lt_month (h : d.InCalendar) :
    d.index < yearsLength (d.year - 1) + monthsLength d.year d.month := by
  obtain ⟨month, hmonth⟩ := Nat.exists_eq_add_of_le' h.month.1
  have hday := h.day
  have hmonths : monthsLength d.year d.month =
      monthsLength d.year (d.month - 1) + lastOf d.year d.month := by
    rw [hmonth]
    rfl
  unfold index
  omega

/-- A day comes before the first one of the next year. -/
theorem index_lt_year (h : d.InCalendar) : d.index < yearsLength d.year := by
  obtain ⟨year, hyear⟩ := Nat.exists_eq_add_of_le' h.year.1
  have hlast := h.index_lt_month
  have hmonths := monthsLength_mono d.year h.month.2
  have hyears : yearsLength d.year = yearsLength (d.year - 1) + monthsLength d.year 12 := by
    rw [hyear]
    rfl
  omega

/-- Days are compared by year, then by month, then by day of the month. -/
theorem index_lt (h : d.InCalendar) (h' : d'.InCalendar)
    (hlt : d.year < d'.year ∨ d.year = d'.year ∧
      (d.month < d'.month ∨ d.month = d'.month ∧ d.day < d'.day)) : d.index < d'.index := by
  have hday := h.day
  have hday' := h'.day
  rcases hlt with hyear | ⟨hyear, hmonth | ⟨hmonth, hlt⟩⟩
  · have hlast := h.index_lt_year
    have hmono := yearsLength_mono (show d.year ≤ d'.year - 1 by omega)
    simp only [index] at hlast ⊢
    omega
  · have hlast := h.index_lt_month
    have hmono := monthsLength_mono d.year (show d.month ≤ d'.month - 1 by omega)
    simp only [index, ← hyear] at hlast ⊢
    omega
  · simp only [index, ← hyear, ← hmonth]
    omega

/-- The day before is in the calendar, too, and one day fewer comes before it. -/
theorem previous? (h : d.InCalendar) {p : Day} (hp : d.previous? = some p) :
    p.InCalendar ∧ p.index = d.index - 1 := by
  have hyear := h.year
  have hmonth := h.month
  have hday := h.day
  unfold Day.previous? at hp
  split at hp
  · cases hp
    refine ⟨⟨hyear, hmonth, by dsimp only; omega⟩, ?_⟩
    simp only [index]
    omega
  split at hp
  · -- The last day of the month before.
    cases hp
    obtain ⟨month, hmonth'⟩ := Nat.exists_eq_add_of_le' (show 2 ≤ d.month by omega)
    have hlast := lastOf_bounds d.year (d.month - 1)
    have hmonths : monthsLength d.year (d.month - 1) =
        monthsLength d.year (d.month - 1 - 1) + lastOf d.year (d.month - 1) := by
      rw [hmonth']
      rfl
    refine ⟨⟨hyear, by dsimp only; omega, by dsimp only; omega⟩, ?_⟩
    simp only [index]
    omega
  split at hp
  · -- The last day of the year before.
    cases hp
    obtain ⟨year, hyear'⟩ := Nat.exists_eq_add_of_le' (show 2 ≤ d.year by omega)
    have hyears : yearsLength (d.year - 1) =
        yearsLength (d.year - 1 - 1) + (monthsLength (d.year - 1) 11 + 31) := by
      rw [hyear']
      rfl
    have hfirst : monthsLength d.year (d.month - 1) = 0 := by
      rw [show d.month = 1 by omega]
      rfl
    refine ⟨⟨by dsimp only; omega, by dsimp only; omega, by simp [lastOf]⟩, ?_⟩
    simp only [index, Nat.reduceSub]
    omega
  · cases hp

/-- Only the first day of the calendar has none before it. -/
theorem previous?_isSome (h : d.InCalendar) (hpos : 0 < d.index) : ∃ p, d.previous? = some p := by
  have hyear := h.year
  have hmonth := h.month
  have hday := h.day
  unfold Day.previous?
  split
  · exact ⟨_, rfl⟩
  split
  · exact ⟨_, rfl⟩
  split
  · exact ⟨_, rfl⟩
  · have hfirst : d = ⟨1, 1, 1⟩ := by
      cases d
      simp only [Day.mk.injEq]
      dsimp only at *
      omega
    rw [hfirst] at hpos
    exact absurd hpos (by decide)

/-- Going back a number of days, as long as that does not leave the calendar. -/
theorem exists_before? {days : Nat} (h : d.InCalendar) (hdays : days ≤ d.index) :
    ∃ p, d.before? days = some p ∧ p.InCalendar ∧ p.index = d.index - days := by
  induction days generalizing d with
  | zero => exact ⟨d, rfl, h, by simp⟩
  | succ days ih =>
    obtain ⟨p, hp⟩ := h.previous?_isSome (by omega)
    obtain ⟨hcalendar, hindex⟩ := h.previous? hp
    obtain ⟨q, hq, hq', hqindex⟩ := ih hcalendar (by omega)
    refine ⟨q, ?_, hq', by omega⟩
    rw [before?, hp]
    exact hq

/-! ## Texts of days -/

theorem bounds (h : d.InCalendar) : d.year < 10 ^ 4 ∧ d.month < 10 ^ 2 ∧ d.day < 10 ^ 2 := by
  have hyear := h.year
  have hmonth := h.month
  have hday := h.day
  have hlast := lastOf_bounds d.year d.month
  omega

theorem length_fields (h : d.InCalendar) : (padded 4 d.year).length = 4 ∧
    (padded 2 d.month).length = 2 ∧ (padded 2 d.day).length = 2 := by
  obtain ⟨hyear, hmonth, hday⟩ := h.bounds
  exact ⟨length_padded (by decide) hyear, length_padded (by decide) hmonth,
    length_padded (by decide) hday⟩

theorem length_text (h : d.InCalendar) : d.text.length = 10 := by
  obtain ⟨hyear, hmonth, hday⟩ := h.length_fields
  simp [text, hyear, hmonth, hday]

/-- The texts of days are in the order of the days. -/
theorem sameOrder_text (h : d.InCalendar) (h' : d'.InCalendar) :
    SameOrder d.text d'.text d.index d'.index := by
  obtain ⟨hyear, hmonth, hday⟩ := h.bounds
  obtain ⟨hyear', hmonth', hday'⟩ := h'.bounds
  obtain ⟨hlyear, hlmonth, -⟩ := h.length_fields
  obtain ⟨hlyear', hlmonth', -⟩ := h'.length_fields
  have hmonths := (sameOrder_padded (by decide) hmonth hmonth').append (hlmonth.trans hlmonth'.symm)
    ((sameOrder_padded (by decide) hday hday').cons '-') (k := 100) (by omega) (by omega)
  have hfields := (sameOrder_padded (by decide) hyear hyear').append (hlyear.trans hlyear'.symm)
    (hmonths.cons '-') (k := 10000) (by omega) (by omega)
  have horder : SameOrder _ _ d.index d'.index := hfields.mono
    (fun hlt => index_lt h h' (by omega)) (fun hlt => index_lt h' h (by omega)) fun heq => by
      have hsame : d.year = d'.year ∧ d.month = d'.month ∧ d.day = d'.day := by omega
      simp only [index, hsame]
  simpa [text] using horder

/-- A day is read from a text that starts with it. -/
theorem ofText_text (h : d.InCalendar) (rest : List Char) : ofText (d.text ++ rest) = d := by
  obtain ⟨hyear, hmonth, hday⟩ := h.bounds
  obtain ⟨hlyear, hlmonth, -⟩ := h.length_fields
  have hsplitMonth : d.text ++ rest =
      (padded 4 d.year ++ ['-']) ++ (padded 2 d.month ++ ('-' :: padded 2 d.day ++ rest)) := by
    simp [text]
  have hsplitDay : d.text ++ rest =
      (padded 4 d.year ++ '-' :: padded 2 d.month ++ ['-']) ++ (padded 2 d.day ++ rest) := by
    simp [text]
  have hnumberYear : number ((d.text ++ rest).take 4) = d.year := by
    rw [text, List.append_assoc, List.append_assoc]
    exact number_field [] _ rfl (by decide) hyear
  have hnumberMonth : number (((d.text ++ rest).drop 5).take 2) = d.month := by
    rw [hsplitMonth]
    exact number_field _ _ (by simp [hlyear]) (by decide) hmonth
  have hnumberDay : number (((d.text ++ rest).drop 8).take 2) = d.day := by
    rw [hsplitDay]
    exact number_field _ _ (by simp [hlyear, hlmonth]) (by decide) hday
  rw [ofText, hnumberYear, hnumberMonth, hnumberDay]

end InCalendar

end Day

end FlowLint
