import FlowLint.Suppression
import Mathlib.Data.List.Forall2
import Mathlib.Data.Nat.Find

/-!
# Which lines directives exclude

`FlowLint/Suppression.lean` goes through the lines and looks for the end of every region by itself.
Here the excluded lines are described by what stands on which line.

* `Shows`: a line holds a directive, in terms of its characters (`holds_iff_shows`).
* `Carries` and `Ends`: the directives by line number, and which one ends a region.
* `mem_regions_iff`: the regions are those of the starts that have an end.
* `suppression_exact`: the lines that are excluded, and the order of the regions.
-/

namespace FlowLint.Directive

/-! ## Directives on a line -/

/-- Two texts have the same letters, but for their case. -/
abbrev SameLetters : List Char → List Char → Prop :=
  List.Forall₂ fun p c => Text.sameLetter p c

/-- A line shows the directive with an ending: when it is trimmed, two slashes stand somewhere in
it, then any number of blanks, then the marker, a hyphen and the ending in any case of letters. -/
def Shows (marker ending : String) (line : Line) : Prop :=
  ∃ before blanks word after,
    Text.trim line = before ++ '/' :: '/' :: (blanks ++ (word ++ after)) ∧
      (∀ c ∈ blanks, Text.isBlank c) ∧
      SameLetters (marker.toList ++ '-' :: ending.toList) word

theorem startsLike_iff {pattern text : List Char} :
    Text.startsLike pattern text ↔
      ∃ word after, text = word ++ after ∧ SameLetters pattern word := by
  fun_induction Text.startsLike pattern text with
  | case1 text => exact ⟨fun _ => ⟨[], text, rfl, .nil⟩, fun _ => rfl⟩
  | case2 pattern hpattern =>
    refine ⟨nofun, ?_⟩
    rintro ⟨word, after, htext, hsame⟩
    obtain ⟨rfl, -⟩ := List.append_eq_nil_iff.mp htext.symm
    cases hsame
    exact absurd rfl hpattern
  | case3 p ps c cs ih =>
    rw [Bool.and_eq_true, ih]
    constructor
    · rintro ⟨hletter, word, after, rfl, hsame⟩
      exact ⟨c :: word, after, rfl, .cons hletter hsame⟩
    · rintro ⟨_, after, htext, hsame⟩
      cases hsame with
      | cons hletter hsame =>
        cases htext
        exact ⟨hletter, _, after, rfl, hsame⟩

theorem markerFollows_iff {marker text : List Char} :
    markerFollows marker text ↔
      ∃ blanks rest, text = blanks ++ rest ∧ (∀ c ∈ blanks, Text.isBlank c) ∧
        Text.startsLike marker rest := by
  induction text with
  | nil => cases marker <;> simp [markerFollows, Text.startsLike]
  | cons c cs ih =>
    rw [markerFollows, Bool.or_eq_true, Bool.and_eq_true, ih]
    constructor
    · rintro (hstarts | ⟨hblank, blanks, rest, rfl, hblanks, hstarts⟩)
      · exact ⟨[], c :: cs, rfl, nofun, hstarts⟩
      · exact ⟨c :: blanks, rest, rfl, List.forall_mem_cons.mpr ⟨hblank, hblanks⟩, hstarts⟩
    · rintro ⟨_ | ⟨b, blanks⟩, rest, htext, hblanks, hstarts⟩
      · exact .inl (htext ▸ hstarts)
      · cases htext
        obtain ⟨hblank, hblanks⟩ := List.forall_mem_cons.mp hblanks
        exact .inr ⟨hblank, blanks, rest, rfl, hblanks, hstarts⟩

theorem occurs_iff {marker : List Char} {line : Line} :
    occurs marker line ↔
      ∃ before rest, line = before ++ '/' :: '/' :: rest ∧ markerFollows marker rest := by
  fun_induction occurs marker line with
  | case1 => simp
  | case2 c cs ih =>
    rw [Bool.or_eq_true, ih]
    split
    case h_1 rest =>
      constructor
      · rintro (hfollows | ⟨before, rest', hrest, hfollows⟩)
        · exact ⟨[], rest, rfl, hfollows⟩
        · exact ⟨'/' :: before, rest', congrArg (List.cons '/') hrest, hfollows⟩
      · rintro ⟨_ | ⟨b, before⟩, rest', hline, hfollows⟩
        · cases hline
          exact .inl hfollows
        · exact .inr ⟨before, rest', (List.cons.inj hline).2, hfollows⟩
    case h_2 hother =>
      constructor
      · rintro (hhere | ⟨before, rest, rfl, hfollows⟩)
        · cases hhere
        · exact ⟨c :: before, rest, rfl, hfollows⟩
      · rintro ⟨_ | ⟨b, before⟩, rest, hline, hfollows⟩
        · cases hline
          exact (hother rest rfl rfl).elim
        · exact .inr ⟨before, rest, (List.cons.inj hline).2, hfollows⟩

/-- The search for a directive finds the lines that show it. -/
theorem holds_iff_shows {marker ending : String} {line : Line} :
    holds marker ending line ↔ Shows marker ending line := by
  rw [holds, occurs_iff]
  constructor
  · rintro ⟨before, _, hline, hfollows⟩
    obtain ⟨blanks, _, rfl, hblanks, hstarts⟩ := markerFollows_iff.mp hfollows
    obtain ⟨word, after, rfl, hsame⟩ := startsLike_iff.mp hstarts
    exact ⟨before, blanks, word, after, hline, hblanks, hsame⟩
  · rintro ⟨before, blanks, word, after, hline, hblanks, hsame⟩
    have hstarts := startsLike_iff.mpr ⟨word, after, rfl, hsame⟩
    exact ⟨before, _, hline, markerFollows_iff.mpr ⟨blanks, _, rfl, hblanks, hstarts⟩⟩

/-! ## Directives by line number -/

/-- Line `n` shows the directive with an ending, where the first line has number `first`. -/
def Carries (marker ending : String) (first : Nat) (lines : List Line) (n : Nat) : Prop :=
  ∃ i line, lines[i]? = some line ∧ n = first + i ∧ Shows marker ending line

/-- The region that starts on line `s` ends on line `e`: on none of the lines between them, the end
of a region is shown. -/
structure Ends (marker : String) (first : Nat) (lines : List Line) (s e : Nat) : Prop where
  later : s < e
  shown : Carries marker "end" first lines e
  notBefore : ∀ k, s < k → k < e → ¬ Carries marker "end" first lines k

section

variable {marker ending : String} {first n s e : Nat} {line : Line} {lines rest : List Line}

theorem Carries.bounds (h : Carries marker ending first lines n) :
    first ≤ n ∧ n < first + lines.length := by
  obtain ⟨i, line, hi, rfl, -⟩ := h
  have hlt := (List.getElem?_eq_some_iff.mp hi).1
  omega

theorem carries_nil : ¬ Carries marker ending first [] n := by
  rintro ⟨i, line, hi, -⟩
  cases hi

theorem carries_cons : Carries marker ending first (line :: rest) n ↔
    (n = first ∧ Shows marker ending line) ∨ Carries marker ending (first + 1) rest n := by
  constructor
  · rintro ⟨_ | i, line', hi, rfl, hshows⟩
    · cases hi
      exact .inl ⟨rfl, hshows⟩
    · exact .inr ⟨i, line', hi, by omega, hshows⟩
  · rintro (⟨rfl, hshows⟩ | ⟨i, line', hi, rfl, hshows⟩)
    · exact ⟨0, line, rfl, rfl, hshows⟩
    · exact ⟨i + 1, line', hi, by omega, hshows⟩

/-- Only the first line has the first number. -/
theorem carries_cons_of_lt (h : first < n) :
    Carries marker ending first (line :: rest) n ↔ Carries marker ending (first + 1) rest n := by
  rw [carries_cons, or_iff_right]
  rintro ⟨rfl, -⟩
  exact absurd h (Nat.lt_irrefl _)

/-- Where a region ends depends on the lines after its start. -/
theorem ends_cons (h : first ≤ s) :
    Ends marker first (line :: rest) s e ↔ Ends marker (first + 1) rest s e := by
  constructor
  · rintro ⟨hlater, hshown, hbefore⟩
    refine ⟨hlater, (carries_cons_of_lt (by omega)).mp hshown, fun k hs he => ?_⟩
    rw [← carries_cons_of_lt (by omega)]
    exact hbefore k hs he
  · rintro ⟨hlater, hshown, hbefore⟩
    refine ⟨hlater, (carries_cons_of_lt (by omega)).mpr hshown, fun k hs he => ?_⟩
    rw [carries_cons_of_lt (by omega)]
    exact hbefore k hs he

/-- The search for the end of a region finds the first line that shows it. -/
theorem regionEnd?_eq_some_iff :
    regionEnd? marker (s + 1) lines = some e ↔ Ends marker (s + 1) lines s e := by
  induction lines generalizing s with
  | nil => exact ⟨nofun, fun h => absurd h.shown carries_nil⟩
  | cons line rest ih =>
    rw [regionEnd?]
    split
    case isTrue hholds =>
      have hhere : Carries marker "end" (s + 1) (line :: rest) (s + 1) :=
        carries_cons.mpr (.inl ⟨rfl, holds_iff_shows.mp hholds⟩)
      constructor
      · rintro ⟨⟩
        exact ⟨Nat.lt_succ_self s, hhere, fun k hs he => by omega⟩
      · rintro ⟨hlater, -, hbefore⟩
        have hle : ¬ s + 1 < e := fun he => hbefore (s + 1) (Nat.lt_succ_self s) he hhere
        exact congrArg some (by omega)
    case isFalse hholds =>
      have hnot : ¬ Carries marker "end" (s + 1) (line :: rest) (s + 1) := by
        intro hhere
        rcases carries_cons.mp hhere with ⟨-, hshows⟩ | hlater
        · exact hholds (holds_iff_shows.mpr hshows)
        · have hbounds := hlater.bounds
          omega
      rw [ih, ← ends_cons (Nat.le_refl (s + 1))]
      constructor
      · rintro ⟨hlater, hshown, hbefore⟩
        refine ⟨by omega, hshown, fun k hs he => ?_⟩
        by_cases hk : k = s + 1
        · exact hk ▸ hnot
        · exact hbefore k (by omega) he
      · rintro ⟨hlater, hshown, hbefore⟩
        refine ⟨?_, hshown, fun k hs he => hbefore k (by omega) he⟩
        by_contra hle
        obtain rfl : e = s + 1 := by omega
        exact hnot hshown

/-- A region has one end only. -/
theorem Ends.unique {e' : Nat} (h : Ends marker first lines s e)
    (h' : Ends marker first lines s e') : e = e' := by
  rcases Nat.lt_trichotomy e e' with hlt | heq | hgt
  · exact absurd h.shown (h'.notBefore e h.later hlt)
  · exact heq
  · exact absurd h'.shown (h.notBefore e' h'.later hgt)

/-- When the end of a region is shown anywhere after a line, one of those ends comes first. -/
theorem exists_ends (hlater : s < e) (hshown : Carries marker "end" first lines e) :
    ∃ e', Ends marker first lines s e' := by
  classical
  have hend : ∃ k, s < k ∧ Carries marker "end" first lines k := ⟨e, hlater, hshown⟩
  obtain ⟨hfind, hcarries⟩ := Nat.find_spec hend
  exact ⟨Nat.find hend, hfind, hcarries,
    fun k hs hk hcarried => Nat.find_min hend hk ⟨hs, hcarried⟩⟩

/-! ## What the directives of a unit give -/

/-- The first line adds one region at most, to the next line that shows an end. -/
theorem regions_cons : (suppressionFrom marker first (line :: rest)).regions =
    (if holds marker "start" line then
      (regionEnd? marker (first + 1) rest).map fun e : Nat => (⟨first, e⟩ : Region)
    else none).toList ++ (suppressionFrom marker (first + 1) rest).regions := by
  rw [suppressionFrom]
  cases regionEnd? marker (first + 1) rest <;> rfl

/-- There is a region for every start that has an end. -/
theorem mem_regions_iff {r : Region} :
    r ∈ (suppressionFrom marker first lines).regions ↔
      ∃ s e : Nat, r = ⟨s, e⟩ ∧ Carries marker "start" first lines s ∧
        Ends marker first lines s e := by
  induction lines generalizing first with
  | nil =>
    refine ⟨fun h => absurd h List.not_mem_nil, ?_⟩
    rintro ⟨s, e, -, hstart, -⟩
    exact absurd hstart carries_nil
  | cons line rest ih =>
    rw [regions_cons, List.mem_append, ih, Option.mem_toList]
    constructor
    · rintro (hregion | ⟨s, e, rfl, hstart, hends⟩)
      · split at hregion
        case isTrue hholds =>
          obtain ⟨e, he, rfl⟩ := Option.map_eq_some_iff.mp hregion
          exact ⟨first, e, rfl, carries_cons.mpr (.inl ⟨rfl, holds_iff_shows.mp hholds⟩),
            (ends_cons (Nat.le_refl first)).mpr (regionEnd?_eq_some_iff.mp he)⟩
        case isFalse => cases hregion
      · have hle := hstart.bounds.1
        exact ⟨s, e, rfl, carries_cons.mpr (.inr hstart), (ends_cons (by omega)).mpr hends⟩
    · rintro ⟨s, e, rfl, hstart, hends⟩
      rcases carries_cons.mp hstart with ⟨rfl, hshows⟩ | hstart
      · left
        rw [if_pos (holds_iff_shows.mpr hshows),
          regionEnd?_eq_some_iff.mpr ((ends_cons (Nat.le_refl s)).mp hends)]
        rfl
      · have hle := hstart.bounds.1
        exact .inr ⟨s, e, rfl, hstart, (ends_cons (by omega)).mp hends⟩

/-- The regions are listed in the order of their starts, and no two of them have the same. -/
theorem pairwise_regions (marker : String) (first : Nat) (lines : List Line) :
    (suppressionFrom marker first lines).regions.Pairwise (·.first < ·.first) := by
  induction lines generalizing first with
  | nil => exact .nil
  | cons line rest ih =>
    rw [regions_cons, List.pairwise_append]
    refine ⟨?_, ih (first + 1), ?_⟩
    · split
      · cases regionEnd? marker (first + 1) rest <;> simp
      · exact .nil
    · intro r hr r' hr'
      obtain ⟨s, e, rfl, hstart, -⟩ := mem_regions_iff.mp hr'
      have hle := hstart.bounds.1
      rw [Option.mem_toList] at hr
      split at hr
      case isTrue =>
        obtain ⟨e', -, rfl⟩ := Option.map_eq_some_iff.mp hr
        exact Int.ofNat_lt.mpr (by omega)
      case isFalse => cases hr

theorem mem_singleLines_iff {number : Int} :
    number ∈ (suppressionFrom marker first lines).singleLines ↔
      ∃ n : Nat, number = n ∧ Carries marker "line" first lines n := by
  induction lines generalizing first with
  | nil => simp [suppressionFrom, carries_nil]
  | cons line rest ih =>
    rw [suppressionFrom]
    dsimp only
    simp only [carries_cons, ← holds_iff_shows, and_or_left, exists_or, ← ih]
    split <;> simp_all

/-- The directive for the next line has no effect on the last line. -/
theorem mem_nextLines_iff {number : Int} :
    number ∈ (suppressionFrom marker first lines).nextLines ↔
      ∃ n : Nat, number = (n + 1 : Nat) ∧ n + 1 < first + lines.length ∧
        Carries marker "next" first lines n := by
  induction lines generalizing first with
  | nil => simp [suppressionFrom, carries_nil]
  | cons line rest ih =>
    have hrest (n : Nat) : n + 1 < first + 1 + rest.length ↔
        n + 1 < first + (line :: rest).length := by
      rw [List.length_cons]
      omega
    rw [suppressionFrom]
    dsimp only
    simp only [carries_cons, ← holds_iff_shows, and_or_left, exists_or, ← hrest, ← ih]
    cases rest with
    | nil => simp_all
    | cons line' rest' => split <;> simp_all

/-- A start with an end on a later line has one region and no other, and no other line starts
one. -/
theorem existsUnique_region_iff :
    (∃! r : Region, r ∈ (suppressionFrom marker first lines).regions ∧ r.first = s) ↔
      Carries marker "start" first lines s ∧ ∃ e, s < e ∧ Carries marker "end" first lines e := by
  constructor
  · rintro ⟨r, ⟨hr, hfirst⟩, -⟩
    obtain ⟨s', e, rfl, hstart, hends⟩ := mem_regions_iff.mp hr
    obtain rfl : s' = s := Int.ofNat.inj hfirst
    exact ⟨hstart, e, hends.later, hends.shown⟩
  · rintro ⟨hstart, e, hlater, hend⟩
    obtain ⟨e', hends⟩ := exists_ends hlater hend
    refine ⟨⟨s, e'⟩, ⟨mem_regions_iff.mpr ⟨s, e', rfl, hstart, hends⟩, rfl⟩, ?_⟩
    rintro r ⟨hr, hfirst⟩
    obtain ⟨s', e'', rfl, -, hends'⟩ := mem_regions_iff.mp hr
    obtain rfl : s' = s := Int.ofNat.inj hfirst
    rw [hends.unique hends']

end

/-- **Directives.** A line is excluded if and only if it is a line of the unit and it lies in a
region, from a start to the first end on a later line, or shows the directive for its own line, or
comes after one with the directive for the next line. The regions go from a start to the first
later end, in the order of their starts, and every start with a later end has exactly one. -/
theorem suppression_exact (marker : String) (lines : List Line) :
    (∀ number : Int, (suppression marker lines).covers number ↔
      ∃ n : Nat, number = n ∧ 1 ≤ n ∧ n ≤ lines.length ∧
        ((∃ s e, s ≤ n ∧ n ≤ e ∧ Carries marker "start" 1 lines s ∧ Ends marker 1 lines s e) ∨
          Carries marker "line" 1 lines n ∨ (2 ≤ n ∧ Carries marker "next" 1 lines (n - 1)))) ∧
    (∀ r : Region, r ∈ (suppression marker lines).regions ↔
      ∃ s e : Nat, r = ⟨s, e⟩ ∧ Carries marker "start" 1 lines s ∧ Ends marker 1 lines s e) ∧
    (suppression marker lines).regions.Pairwise (·.first < ·.first) ∧
    (∀ s : Nat, (∃! r : Region, r ∈ (suppression marker lines).regions ∧ r.first = s) ↔
      Carries marker "start" 1 lines s ∧ ∃ e, s < e ∧ Carries marker "end" 1 lines e) := by
  refine ⟨fun number => ?_, fun r => mem_regions_iff, pairwise_regions marker 1 lines,
    fun s => existsUnique_region_iff⟩
  simp only [Suppression.covers, Bool.or_eq_true, List.any_eq_true, List.contains_iff_mem,
    suppression, mem_regions_iff, mem_singleLines_iff, mem_nextLines_iff, Region.contains,
    Bool.and_eq_true, decide_eq_true_eq]
  constructor
  · rintro ((⟨_, ⟨s, e, rfl, hstart, hends⟩, hs, he⟩ | ⟨n, rfl, hline⟩) | ⟨n, rfl, hlt, hnext⟩)
    · have hfirst := hstart.bounds.1
      have hlast := hends.shown.bounds.2
      dsimp only at hs he
      exact ⟨number.toNat, by omega, by omega, by omega,
        .inl ⟨s, e, by omega, by omega, hstart, hends⟩⟩
    · have hbounds := hline.bounds
      exact ⟨n, rfl, by omega, by omega, .inr (.inl hline)⟩
    · have hbounds := hnext.bounds
      exact ⟨n + 1, rfl, by omega, by omega, .inr (.inr ⟨by omega, hnext⟩)⟩
  · rintro ⟨n, rfl, hfirst, hlast, ⟨s, e, hs, he, hstart, hends⟩ | hline | ⟨htwo, hnext⟩⟩
    · exact .inl (.inl ⟨_, ⟨s, e, rfl, hstart, hends⟩, Int.ofNat_le.mpr hs, Int.ofNat_le.mpr he⟩)
    · exact .inl (.inr ⟨n, rfl, hline⟩)
    · exact .inr ⟨n - 1, congrArg Nat.cast (by omega), by omega, hnext⟩

end FlowLint.Directive
