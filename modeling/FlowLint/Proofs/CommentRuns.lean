import FlowLint.Proofs.BlankRuns
import FlowLint.Proofs.Rules

/-!
# The longest runs of comment lines

Comment lines are gathered in groups, which blank lines do not divide and all other lines do. A
group of two or more is reported.

* `segments_cases`: what one more line does to the groups of the lines after it.
* `flatten_segments`, `not_divider_within` and `divider_between`: the groups hold the members, no
  group holds a divider, and between two groups there is one.
* `Run.ofNumbers?`: a group of two or more, from its first to its last line.
* `mem_commentRuns_iff`: these are the longest runs, as `IsLongestCommentRun` describes them.
* `commentedOutCode_exact`: what is reported.
-/

namespace FlowLint

/-! ## Groups -/

section

variable {classify : Line → Membership} {first : Nat} {lines : List Line}

/-- A member is added to the first of the later groups, and a divider puts an empty group in
front. -/
theorem segments_cases (classify : Line → Membership) (first : Nat) (line : Line)
    (rest : List Line) :
    ∃ s ss, segments classify (first + 1) rest = s :: ss ∧
      (classify line = .member ∧ segments classify first (line :: rest) = (first :: s) :: ss ∨
        classify line = .neutral ∧ segments classify first (line :: rest) = s :: ss ∨
        classify line = .divider ∧ segments classify first (line :: rest) = [] :: s :: ss) := by
  obtain ⟨s, ss, hs⟩ := List.exists_cons_of_ne_nil (segments_ne_nil classify (first + 1) rest)
  refine ⟨s, ss, hs, ?_⟩
  rw [segments, hs]
  cases classify line <;> simp

/-- Together the groups list the members. -/
theorem flatten_segments (classify : Line → Membership) (first : Nat) (lines : List Line) :
    (segments classify first lines).flatten = numbersOf (classify · = .member) first lines := by
  induction lines generalizing first with
  | nil => rfl
  | cons line rest ih =>
    obtain ⟨s, ss, hs, ⟨hc, h⟩ | ⟨hc, h⟩ | ⟨hc, h⟩⟩ := segments_cases classify first line rest
    all_goals
      rw [h, numbersOf, ← ih (first + 1), hs]
      simp [hc]

theorem exists_mem_segments_iff {n : Nat} :
    (∃ seg ∈ segments classify first lines, n ∈ seg) ↔
      LineAt (classify · = .member) first lines n := by
  rw [← List.mem_flatten, flatten_segments, mem_numbersOf]
  simp only [decide_eq_true_iff]

/-- No divider comes before a member of the first group. -/
theorem not_divider_before {s : List Nat} {ss : List (List Nat)}
    (h : segments classify first lines = s :: ss) {m n : Nat} (hm : m ∈ s) (hn : n < m) :
    ¬ LineAt (classify · = .divider) first lines n := by
  induction lines generalizing first s ss with
  | nil => exact lineAt_nil
  | cons line rest ih =>
    obtain ⟨s', ss', hs, ⟨hc, h'⟩ | ⟨hc, h'⟩ | ⟨hc, h'⟩⟩ := segments_cases classify first line rest
    case inl =>
      cases h.symm.trans h'
      intro hdivider
      rcases lineAt_cons.mp hdivider with ⟨-, hd⟩ | hd
      · exact Membership.noConfusion (hc.symm.trans hd)
      · rcases List.mem_cons.mp hm with rfl | hm
        · have hlow := hd.bounds.1
          omega
        · exact ih hs hm hd
    case inr.inl =>
      cases h.symm.trans h'
      intro hdivider
      rcases lineAt_cons.mp hdivider with ⟨-, hd⟩ | hd
      · exact Membership.noConfusion (hc.symm.trans hd)
      · exact ih hs hm hd
    case inr.inr =>
      cases h.symm.trans h'
      cases hm

/-- No divider stands between two members of a group. -/
theorem not_divider_within :
    ∀ seg ∈ segments classify first lines, ∀ a ∈ seg, ∀ m ∈ seg, ∀ n, a < n → n < m →
      ¬ LineAt (classify · = .divider) first lines n := by
  induction lines generalizing first with
  | nil => exact fun _ _ _ _ _ _ _ _ _ => lineAt_nil
  | cons line rest ih =>
    obtain ⟨s, ss, hs, hcases⟩ := segments_cases classify first line rest
    have hlater : ∀ seg ∈ s :: ss, ∀ a ∈ seg, ∀ m ∈ seg, ∀ n, a < n → n < m →
        ¬ LineAt (classify · = .divider) first (line :: rest) n := by
      intro seg hseg a ha m hm n han hnm hd
      have hlow := (increasing_of_mem_segments seg (hs ▸ hseg)).1 a ha
      rcases lineAt_cons.mp hd with ⟨rfl, -⟩ | hd
      · omega
      · exact ih seg (hs ▸ hseg) a ha m hm n han hnm hd
    intro seg hseg a ha m hm n han hnm
    obtain ⟨-, h⟩ | ⟨-, h⟩ | ⟨-, h⟩ := hcases
    · rw [h] at hseg
      rcases List.mem_cons.mp hseg with rfl | hseg
      · exact not_divider_before h hm hnm
      · exact hlater seg (List.mem_cons_of_mem _ hseg) a ha m hm n han hnm
    · exact hlater seg (h ▸ hseg) a ha m hm n han hnm
    · rw [h] at hseg
      rcases List.mem_cons.mp hseg with rfl | hseg
      · cases ha
      · exact hlater seg hseg a ha m hm n han hnm

/-- Between two groups there is a divider. -/
theorem divider_between (classify : Line → Membership) (first : Nat) (lines : List Line) :
    (segments classify first lines).Pairwise fun s t =>
      ∃ d, LineAt (classify · = .divider) first lines d ∧ (∀ a ∈ s, a < d) ∧ ∀ b ∈ t, d < b := by
  induction lines generalizing first with
  | nil => exact List.pairwise_singleton ..
  | cons line rest ih =>
    obtain ⟨s, ss, hs, hcases⟩ := segments_cases classify first line rest
    have ih := ih (first + 1)
    rw [hs] at ih
    have hlater : (s :: ss).Pairwise fun s t =>
        ∃ d, LineAt (classify · = .divider) first (line :: rest) d ∧
          (∀ a ∈ s, a < d) ∧ ∀ b ∈ t, d < b :=
      ih.imp fun ⟨d, hd, hbefore, hafter⟩ => ⟨d, lineAt_cons.mpr (.inr hd), hbefore, hafter⟩
    obtain ⟨-, h⟩ | ⟨-, h⟩ | ⟨hc, h⟩ := hcases
    · rw [h]
      refine List.pairwise_cons.mpr ⟨fun t ht => ?_, (List.pairwise_cons.mp hlater).2⟩
      obtain ⟨d, hd, hbefore, hafter⟩ := List.rel_of_pairwise_cons ih ht
      have hlow := hd.bounds.1
      refine ⟨d, lineAt_cons.mpr (.inr hd), List.forall_mem_cons.mpr ⟨?_, hbefore⟩, hafter⟩
      omega
    · rwa [h]
    · rw [h]
      refine List.pairwise_cons.mpr ⟨fun t ht => ?_, hlater⟩
      refine ⟨first, lineAt_cons.mpr (.inl ⟨rfl, hc⟩), nofun, fun b hb => ?_⟩
      exact (increasing_of_mem_segments t (hs ▸ ht)).1 b hb

/-- Two members are in the same group if there is no divider between them. -/
theorem eq_of_not_divider {s t : List Nat} (hs : s ∈ segments classify first lines)
    (ht : t ∈ segments classify first lines) {a b : Nat} (ha : a ∈ s) (hb : b ∈ t) (hab : a ≤ b)
    (hnone : ∀ n, a < n → n < b → ¬ LineAt (classify · = .divider) first lines n) : s = t := by
  by_contra hne
  rcases rel_or_rel_of_pairwise (divider_between classify first lines) hs ht hne with
    ⟨d, hd, hbefore, hafter⟩ | ⟨d, -, hbefore, hafter⟩
  · exact hnone d (hbefore a ha) (hafter b hb) hd
  · have hlt := hbefore b hb
    have hgt := hafter a ha
    omega

end

/-! ## Runs of two or more -/

/-- The run from the first to the last of two or more numbers. -/
def Run.ofNumbers? : List Nat → Option Run
  | first :: second :: more => some (first, (second :: more).getLast (List.cons_ne_nil _ _))
  | _ => none

theorem Run.exists_ofNumbers? {numbers : List Nat} {a b : Nat} (ha : a ∈ numbers)
    (hb : b ∈ numbers) (hab : a < b) : ∃ r, Run.ofNumbers? numbers = some r := by
  match numbers with
  | [] => cases ha
  | [n] =>
    rw [List.mem_singleton.mp ha, List.mem_singleton.mp hb] at hab
    exact absurd hab (Nat.lt_irrefl n)
  | first :: second :: more => exact ⟨_, rfl⟩

/-- Of increasing numbers, the run starts with the least one and ends with the greatest. -/
theorem Run.of_ofNumbers? {numbers : List Nat} (hlt : numbers.Pairwise (· < ·)) {r : Run}
    (h : Run.ofNumbers? numbers = some r) :
    r.1 ∈ numbers ∧ r.2 ∈ numbers ∧ r.1 < r.2 ∧ ∀ n ∈ numbers, r.1 ≤ n ∧ n ≤ r.2 := by
  match numbers with
  | first :: second :: more =>
    cases h
    have hlast := List.getLast_mem (List.cons_ne_nil second more)
    have hfirst := List.rel_of_pairwise_cons hlt hlast
    refine ⟨List.mem_cons_self, List.mem_cons_of_mem _ hlast, hfirst, fun n hn => ?_⟩
    rcases List.mem_cons.mp hn with rfl | hn
    · exact ⟨Nat.le_refl n, Nat.le_of_lt hfirst⟩
    · have hle := (hlt.tail.imp Nat.le_of_lt).rel_getLast hn
      exact ⟨Nat.le_of_lt (List.rel_of_pairwise_cons hlt hn), hle⟩

/-! ## Comment lines -/

/-- A line counts as commented-out code: it is a comment and holds no directive. -/
def Line.isCommentedOut (marker : String) (line : Line) : Bool :=
  line.isComment && !Directive.occurs marker.toList line

theorem Line.not_isBlank_of_isComment {line : Line} (h : line.isComment = true) :
    line.isBlank = false := by
  unfold isComment at h
  unfold isBlank
  cases htrim : Text.trim line with
  | nil => rw [htrim] at h; cases h
  | cons c cs => rfl

theorem commentMembership_eq_member_iff {marker : String} {line : Line} :
    commentMembership marker line = .member ↔ line.isCommentedOut marker := by
  unfold commentMembership Line.isCommentedOut
  cases hcomment : line.isComment with
  | false => cases line.isBlank <;> simp
  | true => simp [Line.not_isBlank_of_isComment hcomment]

theorem commentMembership_eq_divider_iff {marker : String} {line : Line} :
    commentMembership marker line = .divider ↔
      line.isBlank = false ∧ line.isCommentedOut marker = false := by
  unfold commentMembership Line.isCommentedOut
  cases line.isBlank <;> simp

theorem commentMembership_eq_neutral_iff {marker : String} {line : Line} :
    commentMembership marker line = .neutral ↔ line.isBlank := by
  unfold commentMembership
  cases line.isBlank <;> simp
  split <;> simp

section

variable (marker : String) (lines : List Line)

/-- Line `n` counts as commented-out code. -/
abbrev CommentedOutAt (n : Nat) : Prop :=
  LineAt (·.isCommentedOut marker) 1 lines n

/-- Line `n` ends a run of comment lines: it is not blank and does not count. -/
abbrev EndsCommentRunAt (n : Nat) : Prop :=
  LineAt (fun line => line.isBlank = false ∧ line.isCommentedOut marker = false) 1 lines n

/-- Two different lines that count, with only such lines and blank ones between them. -/
structure IsCommentRun (r : Run) : Prop where
  several : r.1 < r.2
  first : CommentedOutAt marker lines r.1
  last : CommentedOutAt marker lines r.2
  between : ∀ n, r.1 < n → n < r.2 → CommentedOutAt marker lines n ∨ BlankAt 1 lines n

/-- No other run of comment lines reaches as far on both sides. -/
structure IsLongestCommentRun (r : Run) : Prop extends IsCommentRun marker lines r where
  longest : ∀ r' : Run, IsCommentRun marker lines r' → r'.1 ≤ r.1 → r.2 ≤ r'.2 → r' = r

/-- The runs that the groups of comment lines give. -/
def commentRuns : List Run :=
  (segments (commentMembership marker) 1 lines).filterMap Run.ofNumbers?

/-- How many lines of a run count. -/
def commentsWithin (r : Run) : Nat :=
  (numbersOf (·.isCommentedOut marker) 1 lines).countP fun n => r.1 ≤ n && n ≤ r.2

/-- The finding on a run of comment lines. -/
def commentRunFinding (r : Run) : Issue :=
  .found .commentedOutCode
    ("Remove commented-out code (" ++ digitsText (commentsWithin marker lines r)
      ++ " consecutive comment lines)")
    (.ofLines r.1 1 r.2 (((lines[r.2 - 1]?).getD []).length + 1)) none

end

variable {marker : String} {lines : List Line} {r : Run} {n : Nat}

/-! ## Groups of comment lines -/

theorem exists_mem_commentSegments_iff :
    (∃ seg ∈ segments (commentMembership marker) 1 lines, n ∈ seg) ↔
      CommentedOutAt marker lines n := by
  rw [exists_mem_segments_iff]
  simp only [commentMembership_eq_member_iff]

/-- A line that does not end a run counts or is blank. -/
theorem commentedOutAt_or_blankAt (hfirst : 1 ≤ n) (hlast : n ≤ lines.length)
    (h : ¬ LineAt (commentMembership marker · = .divider) 1 lines n) :
    CommentedOutAt marker lines n ∨ BlankAt 1 lines n := by
  obtain ⟨i, rfl⟩ := Nat.exists_eq_add_of_le hfirst
  have hget : lines[i]? = some lines[i] := List.getElem?_eq_getElem (by omega)
  cases hc : commentMembership marker lines[i] with
  | member => exact .inl ⟨i, _, hget, rfl, commentMembership_eq_member_iff.mp hc⟩
  | neutral => exact .inr ⟨i, _, hget, rfl, commentMembership_eq_neutral_iff.mp hc⟩
  | divider => exact absurd ⟨i, _, hget, rfl, hc⟩ h

theorem IsCommentRun.not_divider (h : IsCommentRun marker lines r) (hfirst : r.1 < n)
    (hlast : n < r.2) : ¬ LineAt (commentMembership marker · = .divider) 1 lines n := by
  intro hdivider
  rcases h.between n hfirst hlast with hcounts | hblank
  · obtain ⟨i, line, -, -, hd, hc⟩ := hdivider.and hcounts
    rw [commentMembership_eq_member_iff.mpr hc] at hd
    cases hd
  · obtain ⟨i, line, -, -, hd, hb⟩ := hdivider.and hblank
    rw [commentMembership_eq_neutral_iff.mpr hb] at hd
    cases hd

/-- A run lies in one group. -/
theorem IsCommentRun.exists_segment (h : IsCommentRun marker lines r) :
    ∃ seg ∈ segments (commentMembership marker) 1 lines, r.1 ∈ seg ∧ r.2 ∈ seg := by
  obtain ⟨s, hs, hfirst⟩ := exists_mem_commentSegments_iff.mpr h.first
  obtain ⟨t, ht, hlast⟩ := exists_mem_commentSegments_iff.mpr h.last
  obtain rfl := eq_of_not_divider hs ht hfirst hlast (Nat.le_of_lt h.several)
    fun n => h.not_divider
  exact ⟨s, hs, hfirst, hlast⟩

/-- A group of two or more is a run. -/
theorem isCommentRun_of_segment {seg : List Nat}
    (hseg : seg ∈ segments (commentMembership marker) 1 lines)
    (h : Run.ofNumbers? seg = some r) : IsCommentRun marker lines r := by
  obtain ⟨hfirst, hlast, hlt, -⟩ := Run.of_ofNumbers? (increasing_of_mem_segments seg hseg).2 h
  refine ⟨hlt, exists_mem_commentSegments_iff.mp ⟨seg, hseg, hfirst⟩,
    exists_mem_commentSegments_iff.mp ⟨seg, hseg, hlast⟩, fun n hn hn' => ?_⟩
  have hlow := (increasing_of_mem_segments seg hseg).1 r.1 hfirst
  have hhigh := lt_of_mem_segments seg hseg r.2 hlast
  exact commentedOutAt_or_blankAt (by omega) (by omega)
    (not_divider_within seg hseg r.1 hfirst r.2 hlast n hn hn')

/-- A run that reaches over a member of a group lies in this group. -/
theorem IsCommentRun.mem_segment (h : IsCommentRun marker lines r) {seg : List Nat}
    (hseg : seg ∈ segments (commentMembership marker) 1 lines) (hn : n ∈ seg) (hfirst : r.1 ≤ n)
    (hlast : n ≤ r.2) : r.1 ∈ seg ∧ r.2 ∈ seg := by
  obtain ⟨t, ht, hfirst', hlast'⟩ := h.exists_segment
  obtain rfl := eq_of_not_divider ht hseg hfirst' hn hfirst fun k hk hk' =>
    h.not_divider hk (by omega)
  exact ⟨hfirst', hlast'⟩

/-- The groups of two or more are the longest runs. -/
theorem mem_commentRuns_iff :
    r ∈ commentRuns marker lines ↔ IsLongestCommentRun marker lines r := by
  rw [commentRuns, List.mem_filterMap]
  constructor
  · rintro ⟨seg, hseg, h⟩
    obtain ⟨hfirst, -, hlt, hall⟩ := Run.of_ofNumbers? (increasing_of_mem_segments seg hseg).2 h
    refine ⟨isCommentRun_of_segment hseg h, fun r' hr' hlow hhigh => ?_⟩
    obtain ⟨hfirst', hlast'⟩ := hr'.mem_segment hseg hfirst hlow (by omega)
    exact Prod.ext (Nat.le_antisymm hlow (hall _ hfirst').1)
      (Nat.le_antisymm (hall _ hlast').2 hhigh)
  · intro h
    obtain ⟨seg, hseg, hfirst, hlast⟩ := h.exists_segment
    obtain ⟨r', hr'⟩ := Run.exists_ofNumbers? hfirst hlast h.several
    obtain ⟨-, -, -, hall⟩ := Run.of_ofNumbers? (increasing_of_mem_segments seg hseg).2 hr'
    have heq := h.longest r' (isCommentRun_of_segment hseg hr') (hall _ hfirst).1 (hall _ hlast).2
    exact ⟨seg, hseg, heq ▸ hr'⟩

/-- Each run ends before the next one, with a line between them that ends it. -/
theorem pairwise_commentRuns (marker : String) (lines : List Line) :
    (commentRuns marker lines).Pairwise fun r r' =>
      ∃ n, r.2 < n ∧ n < r'.1 ∧ EndsCommentRunAt marker lines n := by
  rw [commentRuns, List.pairwise_filterMap]
  refine (divider_between (commentMembership marker) 1 lines).imp_of_mem ?_
  rintro s t hs ht ⟨d, hd, hbefore, hafter⟩ r hr r' hr'
  obtain ⟨-, hlast, -⟩ := Run.of_ofNumbers? (increasing_of_mem_segments s hs).2 hr
  obtain ⟨hfirst, -⟩ := Run.of_ofNumbers? (increasing_of_mem_segments t ht).2 hr'
  exact ⟨d, hbefore _ hlast, hafter _ hfirst,
    hd.imp fun line => commentMembership_eq_divider_iff.mp⟩

/-- The lines of a run that count are the members of its group. -/
theorem commentsWithin_eq {seg : List Nat}
    (hseg : seg ∈ segments (commentMembership marker) 1 lines)
    (h : Run.ofNumbers? seg = some r) : commentsWithin marker lines r = seg.length := by
  obtain ⟨hfirst, hlast, -, hall⟩ := Run.of_ofNumbers? (increasing_of_mem_segments seg hseg).2 h
  obtain ⟨before, after, hsplit⟩ := List.append_of_mem hseg
  have hnumbers : numbersOf (·.isCommentedOut marker) 1 lines =
      before.flatten ++ (seg ++ after.flatten) := by
    rw [← List.flatten_cons, ← List.flatten_append, ← hsplit, flatten_segments]
    simp only [commentMembership_eq_member_iff, Bool.decide_eq_true]
  have hapart := divider_between (commentMembership marker) 1 lines
  rw [hsplit, List.pairwise_append] at hapart
  obtain ⟨-, hafter, hbefore⟩ := hapart
  have hother {segs : List (List Nat)} (h : ∀ s ∈ segs, ∀ n ∈ s, n < r.1 ∨ r.2 < n) :
      segs.flatten.countP (fun n => r.1 ≤ n && n ≤ r.2) = 0 := by
    refine List.countP_eq_zero.mpr fun n hn => ?_
    obtain ⟨s, hs, hn⟩ := List.mem_flatten.mp hn
    have hout := h s hs n hn
    simp only [Bool.and_eq_true, decide_eq_true_eq]
    omega
  have hbefore := hother fun s hs n hn =>
    have ⟨_, _, hlow, hhigh⟩ := hbefore s hs seg List.mem_cons_self
    .inl (Nat.lt_trans (hlow n hn) (hhigh r.1 hfirst))
  have hafter := hother fun t ht n hn =>
    have ⟨_, _, hlow, hhigh⟩ := List.rel_of_pairwise_cons hafter ht
    .inr (Nat.lt_trans (hlow r.2 hlast) (hhigh n hn))
  have hown : seg.countP (fun n => r.1 ≤ n && n ≤ r.2) = seg.length :=
    List.countP_eq_length.mpr fun n hn => by simpa using hall n hn
  rw [commentsWithin, hnumbers, List.countP_append, List.countP_append, hbefore, hafter, hown,
    Nat.zero_add, Nat.add_zero]

/-! ## What is reported -/

/-- Where nothing is excluded, a group of two or more gives a finding on its run. -/
theorem found_commentedOutRemark_eq {s : Suppression} (hnone : ∀ line, s.covers line = false)
    {seg : List Nat} (hseg : seg ∈ segments (commentMembership marker) 1 lines) :
    found (commentedOutRemark s lines seg) =
      (Run.ofNumbers? seg).toList.map (commentRunFinding marker lines) := by
  match seg with
  | [] | [_] => rfl
  | first :: second :: more =>
    have hr : Run.ofNumbers? (first :: second :: more) = some _ := rfl
    have htouches (first last : Int) : s.touches first last = false :=
      Suppression.touches_eq_false_iff.mpr fun line _ _ => hnone line
    have hlast : (second :: more).getLast?.getD first =
        (second :: more).getLast (List.cons_ne_nil _ _) := by
      rw [List.getLast?_eq_some_getLast (List.cons_ne_nil _ _), Option.getD_some]
    rw [hr, commentedOutRemark, htouches, hlast]
    simp only [Bool.false_eq_true, if_false, ← commentsWithin_eq hseg hr]
    rfl

/-- Where nothing is excluded, there is one finding for each run. -/
theorem found_commentedOutRemarks_eq {s : Suppression}
    (hnone : ∀ line, s.covers line = false) (marker : String) (lines : List Line) :
    found (commentedOutRemarks s marker lines) =
      (commentRuns marker lines).map (commentRunFinding marker lines) := by
  rw [commentedOutRemarks, found_flatMap, commentRuns, List.filterMap_eq_flatMap_toList,
    List.map_flatMap]
  exact List.flatMap_congr fun seg hseg => found_commentedOutRemark_eq hnone hseg

/-- **Commented-out code.** At level 2 and above, and where nothing is excluded, there is one
finding for each longest run of comment lines, and no other. It stands from the first to the last
of the lines that count, and its message says how many of them there are. The findings come in the
order of their lines, and between two of them there is a line that is neither blank nor counts. -/
theorem commentedOutCode_exact {ctx : Context} (hlevel : 2 ≤ ctx.level)
    (hnone : ∀ line, ctx.suppression.covers line = false) :
    ∃ runs : List Run,
      Rule.commentedOutCode.issues ctx =
        runs.map (commentRunFinding ctx.profile.directiveMarker ctx.lines) ∧
      (∀ r, r ∈ runs ↔ IsLongestCommentRun ctx.profile.directiveMarker ctx.lines r) ∧
      runs.Pairwise fun r r' =>
        ∃ n, r.2 < n ∧ n < r'.1 ∧ EndsCommentRunAt ctx.profile.directiveMarker ctx.lines n := by
  refine ⟨commentRuns ctx.profile.directiveMarker ctx.lines, ?_, fun r => mem_commentRuns_iff,
    pairwise_commentRuns _ _⟩
  rw [Rule.issues_eq, Rule.remarks, found_commentedOutRemarks_eq hnone]
  refine List.filter_eq_self.mpr fun i hi => ?_
  obtain ⟨r, -, rfl⟩ := List.mem_map.mp hi
  rw [Context.reports, hnone, Bool.not_false, Bool.and_true]
  exact decide_eq_true hlevel

/-- Blank lines do not divide a run, and a directive does: of five comment lines and a directive,
the first two and the last two are runs. -/
theorem commentedOutCode_exact_directive :
    let lines : List Line :=
      ["// a", "", "// b", "// @nr-analyzer-ignore-line", "// c", "x", "// d", "  ", "\t//e"].map
        String.toList
    let ctx : Context := { lines, program := .program [] (.ofLines 1 1 1 1), level := 2 }
    (2 ≤ ctx.level ∧ ∀ line, ctx.suppression.covers line = false) ∧
      (Rule.commentedOutCode.issues ctx).map (fun i => (i.line, i.endLine)) = [(1, 3), (7, 9)] ∧
      ∀ r, IsLongestCommentRun Directive.defaultMarker lines r ↔ r = (1, 3) ∨ r = (7, 9) := by
  intro lines ctx
  have hlevel : 2 ≤ ctx.level := Int.le_refl 2
  have hnone : ∀ line, ctx.suppression.covers line = false := fun _ => rfl
  have hissues : (Rule.commentedOutCode.issues ctx).map (fun i => (i.line, i.endLine)) =
      [(1, 3), (7, 9)] := by decide +kernel
  obtain ⟨runs, hreported, hruns, -⟩ := commentedOutCode_exact hlevel hnone
  have hinjective : Function.Injective fun r : Run => ((r.1 : Int), (r.2 : Int)) := by
    intro r r' h
    obtain ⟨hfirst, hlast⟩ := Prod.mk.inj h
    exact Prod.ext (Int.ofNat.inj hfirst) (Int.ofNat.inj hlast)
  have hlisted : runs = [(1, 3), (7, 9)] := by
    refine hinjective.list_map ?_
    rw [hreported, List.map_map] at hissues
    exact hissues
  refine ⟨⟨hlevel, hnone⟩, hissues, fun r => ?_⟩
  rw [← hruns r, hlisted]
  simp

end FlowLint
