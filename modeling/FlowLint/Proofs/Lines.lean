import FlowLint.Proofs.Directives

/-!
# Lines and their numbers

* `splitLines_append`: a line feed ends a line, and nothing else does.
* `charsWithin_le` and `charsWithin_mono`: a column lies within its line, and further on in the
  line it does not get smaller.
* `LineAt`: what line stands at a number. `mem_numbersOf` says so of the listed numbers.
* `bounds_of_mem_blankRunsFrom`, `lt_of_mem_segments` and `firstMarker?_bounds`: what is found on
  lines has the numbers of these lines.
* `blankRunsFrom_succ` and `segments_succ`: counting the lines from one higher number, everything
  is found one line further down.
-/

namespace FlowLint

/-! ## Cutting a text into lines -/

theorem splitLines_ne_nil (text : List Char) : splitLines text ≠ [] := by
  fun_cases splitLines text <;> exact List.cons_ne_nil _ _

/-- A line feed ends a line. -/
theorem splitLines_append (a b : List Char) :
    splitLines (a ++ '\n' :: b) = splitLines a ++ splitLines b := by
  induction a with
  | nil => rfl
  | cons c cs ih =>
    rw [List.cons_append, splitLines, splitLines, ih]
    by_cases hc : c = '\n'
    · rw [if_pos hc, if_pos hc, List.cons_append]
    · rw [if_neg hc, if_neg hc]
      obtain ⟨line, rest, hlines⟩ := List.exists_cons_of_ne_nil (splitLines_ne_nil cs)
      rw [hlines]
      rfl

/-- A text without line feeds is one line. -/
theorem splitLines_of_not_mem {text : List Char} (h : '\n' ∉ text) :
    splitLines text = [text] := by
  induction text with
  | nil => rfl
  | cons c cs ih =>
    have hc : c ≠ '\n' := fun he => h (he ▸ List.mem_cons_self)
    have hcs : '\n' ∉ cs := fun hmem => h (List.mem_cons_of_mem _ hmem)
    rw [splitLines, if_neg hc, ih hcs]

/-- A text has at most one line more than it has characters. -/
theorem length_splitLines_le (text : List Char) : (splitLines text).length ≤ text.length + 1 := by
  induction text with
  | nil => exact Nat.le_refl 1
  | cons c cs ih =>
    rw [splitLines, List.length_cons]
    by_cases hc : c = '\n'
    · rw [if_pos hc, List.length_cons]
      omega
    · rw [if_neg hc]
      obtain ⟨line, rest, hlines⟩ := List.exists_cons_of_ne_nil (splitLines_ne_nil cs)
      rw [hlines] at ih ⊢
      rw [List.length_cons] at ih ⊢
      omega

/-! ## Columns -/

/-- No more characters start within some bytes of a line than it has. -/
theorem charsWithin_le (line : List Char) (bytes : Nat) : charsWithin line bytes ≤ line.length := by
  fun_induction charsWithin line bytes with
  | case1 => exact Nat.zero_le _
  | case2 => exact Nat.zero_le _
  | case3 c cs bytes ih =>
    rw [List.length_cons]
    omega

/-- The more bytes, the more characters start within them. -/
theorem charsWithin_mono (line : List Char) {bytes bytes' : Nat} (h : bytes ≤ bytes') :
    charsWithin line bytes ≤ charsWithin line bytes' := by
  induction line generalizing bytes bytes' with
  | nil => exact Nat.le_of_eq rfl
  | cons c cs ih =>
    cases bytes with
    | zero => exact Nat.zero_le _
    | succ k =>
      obtain ⟨k', rfl⟩ : ∃ k', bytes' = k' + 1 := ⟨bytes' - 1, by omega⟩
      rw [charsWithin, charsWithin]
      have hrest := ih (Nat.sub_le_sub_right h c.utf8Size)
      omega

/-! ## Lines by number -/

/-- The line with number `n` is one for which `p` holds, where the first line has number
`first`. -/
def LineAt (p : Line → Prop) (first : Nat) (lines : List Line) (n : Nat) : Prop :=
  ∃ i line, lines[i]? = some line ∧ n = first + i ∧ p line

section

variable {p q : Line → Prop} {first n : Nat} {line : Line} {lines rest : List Line}

theorem LineAt.bounds (h : LineAt p first lines n) : first ≤ n ∧ n < first + lines.length := by
  obtain ⟨i, line, hi, rfl, -⟩ := h
  have hlt := (List.getElem?_eq_some_iff.mp hi).1
  omega

theorem LineAt.imp (h : LineAt p first lines n) (hpq : ∀ line, p line → q line) :
    LineAt q first lines n := by
  obtain ⟨i, line, hi, hn, hp⟩ := h
  exact ⟨i, line, hi, hn, hpq line hp⟩

/-- One line has a number. -/
theorem LineAt.and (hp : LineAt p first lines n) (hq : LineAt q first lines n) :
    LineAt (fun line => p line ∧ q line) first lines n := by
  obtain ⟨i, line, hi, rfl, hp⟩ := hp
  obtain ⟨j, line', hj, hij, hq⟩ := hq
  obtain rfl : i = j := Nat.add_left_cancel hij
  rw [hi] at hj
  cases hj
  exact ⟨i, line, hi, rfl, hp, hq⟩

theorem lineAt_nil : ¬ LineAt p first [] n := by
  rintro ⟨i, line, hi, -⟩
  cases hi

theorem lineAt_cons :
    LineAt p first (line :: rest) n ↔ (n = first ∧ p line) ∨ LineAt p (first + 1) rest n := by
  constructor
  · rintro ⟨_ | i, line', hi, rfl, hp⟩
    · cases hi
      exact .inl ⟨rfl, hp⟩
    · exact .inr ⟨i, line', hi, by omega, hp⟩
  · rintro (⟨rfl, hp⟩ | ⟨i, line', hi, rfl, hp⟩)
    · exact ⟨0, line, rfl, rfl, hp⟩
    · exact ⟨i + 1, line', hi, by omega, hp⟩

end

theorem mem_numbersOf {p : Line → Bool} {first n : Nat} {lines : List Line} :
    n ∈ numbersOf p first lines ↔ LineAt (p ·) first lines n := by
  induction lines generalizing first with
  | nil => exact iff_of_false List.not_mem_nil lineAt_nil
  | cons line rest ih =>
    rw [numbersOf, lineAt_cons, ← ih]
    split
    case isTrue hp => simp [hp]
    case isFalse hp => simp [hp]

/-! ## Runs of blank lines -/

theorem Run.bounds_of_mem_extend {number stop : Nat} {runs : List Run} {r : Run}
    (hstop : number < stop) (hruns : ∀ r ∈ runs, number < r.1 ∧ r.2 < stop)
    (hr : r ∈ Run.extend number runs) : number ≤ r.1 ∧ r.2 < stop := by
  revert hr
  fun_cases Run.extend number runs
  case case1 =>
    intro hr
    cases List.mem_singleton.mp hr
    exact ⟨Nat.le_refl _, hstop⟩
  case case2 r' rest _ =>
    intro hr
    rcases List.mem_cons.mp hr with rfl | hr
    · exact ⟨Nat.le_refl _, (hruns r' List.mem_cons_self).2⟩
    · obtain ⟨hlow, hhigh⟩ := hruns r (List.mem_cons_of_mem _ hr)
      exact ⟨Nat.le_of_lt hlow, hhigh⟩
  case case3 r' rest _ =>
    intro hr
    rcases List.mem_cons.mp hr with rfl | hr
    · exact ⟨Nat.le_refl _, hstop⟩
    · obtain ⟨hlow, hhigh⟩ := hruns r hr
      exact ⟨Nat.le_of_lt hlow, hhigh⟩

/-- A run lies within the lines among which it was found. -/
theorem bounds_of_mem_blankRunsFrom {first : Nat} {lines : List Line} :
    ∀ r ∈ blankRunsFrom first lines, first ≤ r.1 ∧ r.2 < first + lines.length := by
  induction lines generalizing first with
  | nil => exact fun r hr => absurd hr List.not_mem_nil
  | cons line rest ih =>
    intro r hr
    rw [List.length_cons]
    have hlater : ∀ r ∈ blankRunsFrom (first + 1) rest,
        first < r.1 ∧ r.2 < first + (rest.length + 1) := by
      intro r hr
      obtain ⟨hlow, hhigh⟩ := ih r hr
      omega
    rw [blankRunsFrom] at hr
    split at hr
    · exact Run.bounds_of_mem_extend (by omega) hlater hr
    · obtain ⟨hlow, hhigh⟩ := hlater r hr
      exact ⟨Nat.le_of_lt hlow, hhigh⟩

/-- The run one line further down. -/
def Run.down (r : Run) : Run :=
  (r.1 + 1, r.2 + 1)

theorem Run.length_down (r : Run) : r.down.length = r.length := by
  simp only [Run.length, Run.down]
  omega

theorem Run.extend_down (number : Nat) (runs : List Run) :
    Run.extend (number + 1) (runs.map Run.down) = (Run.extend number runs).map Run.down := by
  cases runs with
  | nil => rfl
  | cons r rest =>
    simp only [List.map_cons, Run.extend, Run.down, Nat.add_right_cancel_iff]
    split <;> rfl

theorem blankRunsFrom_succ (first : Nat) (lines : List Line) :
    blankRunsFrom (first + 1) lines = (blankRunsFrom first lines).map Run.down := by
  induction lines generalizing first with
  | nil => rfl
  | cons line rest ih =>
    rw [blankRunsFrom, blankRunsFrom, ih (first + 1)]
    split
    · exact Run.extend_down first _
    · rfl

/-! ## Groups of lines -/

theorem segments_ne_nil (classify : Line → Membership) (first : Nat) (lines : List Line) :
    segments classify first lines ≠ [] := by
  induction lines generalizing first with
  | nil => exact List.cons_ne_nil _ _
  | cons line rest ih =>
    obtain ⟨seg, segs, hs⟩ := List.exists_cons_of_ne_nil (ih (first + 1))
    rw [segments, hs]
    cases classify line <;> exact List.cons_ne_nil _ _

/-- A group has numbers of the lines among which it was found only. -/
theorem lt_of_mem_segments {classify : Line → Membership} {first : Nat} {lines : List Line} :
    ∀ seg ∈ segments classify first lines, ∀ n ∈ seg, n < first + lines.length := by
  induction lines generalizing first with
  | nil =>
    intro seg hseg n hn
    cases List.mem_singleton.mp hseg
    exact absurd hn List.not_mem_nil
  | cons line rest ih =>
    intro seg hseg n hn
    rw [List.length_cons]
    rw [segments] at hseg
    cases hs : segments classify (first + 1) rest with
    | nil => rw [hs] at hseg; cases hseg
    | cons s ss =>
      have hlater : ∀ seg ∈ s :: ss, ∀ n ∈ seg, n < first + (rest.length + 1) := by
        intro seg hseg n hn
        have hlt := ih seg (hs ▸ hseg) n hn
        omega
      rw [hs] at hseg
      cases hc : classify line with
      | member =>
        rw [hc] at hseg
        rcases List.mem_cons.mp hseg with rfl | hseg
        · rcases List.mem_cons.mp hn with rfl | hn
          · omega
          · exact hlater s List.mem_cons_self n hn
        · exact hlater seg (List.mem_cons_of_mem _ hseg) n hn
      | neutral =>
        rw [hc] at hseg
        exact hlater seg hseg n hn
      | divider =>
        rw [hc] at hseg
        rcases List.mem_cons.mp hseg with rfl | hseg
        · exact absurd hn List.not_mem_nil
        · exact hlater seg hseg n hn

theorem segments_succ (classify : Line → Membership) (first : Nat) (lines : List Line) :
    segments classify (first + 1) lines =
      (segments classify first lines).map (·.map (· + 1)) := by
  induction lines generalizing first with
  | nil => rfl
  | cons line rest ih =>
    rw [segments, segments, ih (first + 1)]
    cases segments classify (first + 1) rest with
    | nil => rfl
    | cons s ss => cases classify line <;> rfl

/-! ## Markers -/

/-- A marker starts at a character of its line. -/
theorem firstMarker?_bounds {first column : Nat} {line : Line} {word : List Char}
    (h : firstMarker? first line = some (column, word)) :
    first ≤ column ∧ column < first + line.length := by
  fun_induction firstMarker? first line with
  | case1 => cases h
  | case2 first c cs word' hword =>
    cases h
    exact ⟨Nat.le_refl _, Nat.lt_add_of_pos_right (Nat.succ_pos _)⟩
  | case3 first c cs hnone ih =>
    obtain ⟨hlow, hhigh⟩ := ih h
    rw [List.length_cons]
    omega

/-- A remark on unfinished work is the remark on one of the lines. -/
theorem exists_line_of_todoRemarks {first : Nat} {lines : List Line} {r : Remark}
    (h : r ∈ todoRemarks first lines) :
    ∃ k line, lines[k]? = some line ∧ r ∈ todoRemark (first + k) line := by
  induction lines generalizing first with
  | nil => cases h
  | cons line rest ih =>
    rw [todoRemarks] at h
    rcases List.mem_append.mp h with h | h
    · exact ⟨0, line, rfl, h⟩
    · obtain ⟨k, line', hk, hr⟩ := ih h
      refine ⟨k + 1, line', hk, ?_⟩
      rwa [← Nat.add_assoc, Nat.add_right_comm]

end FlowLint
