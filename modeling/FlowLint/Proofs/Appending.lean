import FlowLint.Proofs.Exact
import FlowLint.Proofs.Matches
import FlowLint.Proofs.Totality

/-!
# More text, more complexity

What is written after a text, from a new line on, takes nothing away from the complexity of the
text.

* `countStarts_append_le`: a match that is there stays there when the text goes on.
* `logicalOperators_append`, `countP_splitLines_append`: a line feed keeps the two parts of a text
  apart. What is counted in operators or in lines adds up.
* `deepest_append_le`: nesting that was reached stays reached.
* `finds_append_le`: the same for the matches that a search finds.
* `weight`: the counts with their factors. In exact arithmetic the complexity is this sum, rounded
  (`run_ofSource`).
* `complexity_append`: neither the complexity nor any of its counts gets smaller.
-/

namespace FlowLint.Complexity

/-! ## Counts -/

/-- When a text goes on, no place is lost where something starts. -/
theorem countStarts_append_le {p : Pattern} {starts : Bool → List Char → Bool}
    (hstarts : ∀ {inWord cs}, starts inWord cs = true ↔ ∃ m, p.At inWord cs m) (inWord : Bool)
    (cs more : List Char) :
    countStarts starts inWord cs ≤ countStarts starts inWord (cs ++ more) := by
  induction cs generalizing inWord with
  | nil => exact Nat.zero_le _
  | cons c cs ih =>
    rw [List.cons_append, countStarts, countStarts]
    refine Nat.add_le_add ?_ (ih (isWordChar c))
    split
    case isTrue hhere =>
      obtain ⟨m, hm⟩ := hstarts.mp hhere
      have hthere : starts inWord (c :: (cs ++ more)) = true := hstarts.mpr ⟨m, hm.append more⟩
      rw [if_pos hthere]
    case isFalse => exact Nat.zero_le _

/-- No operator reaches over a line feed. -/
theorem logicalOperators_append (cs more : List Char) :
    logicalOperators (cs ++ '\n' :: more) = logicalOperators cs + logicalOperators more := by
  have hnewline {c : Char} {cs rest : List Char} (hc : c ≠ '\n')
      (h : cs ++ '\n' :: more = c :: rest) : ∃ rest, cs = c :: rest := by
    cases cs with
    | nil => exact absurd (List.cons.inj h).1.symm hc
    | cons d cs => exact ⟨cs, by rw [(List.cons.inj h).1]⟩
  fun_induction logicalOperators cs with
  | case1 cs ih =>
    rw [List.cons_append, List.cons_append, logicalOperators, ih]
    omega
  | case2 cs ih =>
    rw [List.cons_append, List.cons_append, logicalOperators, ih]
    omega
  | case3 c cs hand hor ih =>
    rw [List.cons_append, logicalOperators, ih]
    · rintro rest rfl h
      obtain ⟨rest, rfl⟩ := hnewline (by decide) h
      exact hand rest rfl rfl
    · rintro rest rfl h
      obtain ⟨rest, rfl⟩ := hnewline (by decide) h
      exact hor rest rfl rfl
  | case4 => rw [List.nil_append, logicalOperators, Nat.zero_add] <;> simp

/-- Lines are counted before a line feed and behind it. -/
theorem countP_splitLines_append (p : Line → Bool) (cs more : List Char) :
    (splitLines (cs ++ '\n' :: more)).countP p =
      (splitLines cs).countP p + (splitLines more).countP p := by
  rw [splitLines_append, List.countP_append]

/-- Nesting that was reached stays reached. -/
theorem deepestFrom_append_le {d n : Int} (hn : n ≤ d) (cs more : List Char) :
    deepestFrom d n cs ≤ deepestFrom d n (cs ++ more) := by
  fun_induction deepestFrom d n cs with
  | case1 d n => exact (deepestFrom_bounds more hn).1
  | case2 d n cs ih =>
    rw [List.cons_append, deepestFrom, if_pos rfl]
    exact ih (le_max_right _ _)
  | case3 d n cs hopen ih =>
    rw [List.cons_append, deepestFrom, if_neg hopen, if_pos rfl]
    exact ih (by omega)
  | case4 d n c cs hopen hclose ih =>
    rw [List.cons_append, deepestFrom, if_neg hopen, if_neg hclose]
    exact ih hn

section

variable (cs more : List Char)

theorem codeLines_append_le : codeLines cs ≤ codeLines (cs ++ '\n' :: more) := by
  unfold codeLines
  rw [countP_splitLines_append]
  exact Nat.le_add_right _ _

theorem branchings_append_le :
    List.Forall₂ (· ≤ ·) (branchings cs) (branchings (cs ++ '\n' :: more)) := by
  refine List.rel_append ?_ (.cons ?_ (.cons ?_ (.cons ?_ .nil)))
  · rw [List.forall₂_map_left_iff, List.forall₂_map_right_iff, List.forall₂_same]
    exact fun word _ => countStarts_append_le headStarts_iff _ _ _
  · exact countStarts_append_le caseStarts_iff _ _ _
  · rw [logicalOperators_append]
    exact Nat.le_add_right _ _
  · rw [countP_splitLines_append]
    exact Nat.le_add_right _ _

theorem deepest_append_le : deepest cs ≤ deepest (cs ++ more) :=
  deepestFrom_append_le (Int.le_refl 0) cs more

theorem namedFunctions_append_le : namedFunctions cs ≤ namedFunctions (cs ++ more) :=
  countStarts_append_le namedFunctionStarts_iff _ _ _

end

section

variable {cs cs' : List Char} {ps : List Pattern} {ns ns' : List Nat}

/-- Numbers of matches are ordered as the counts are. -/
theorem le_of_finds (h : List.Forall₂ (fun p n => Finds p false cs n) ps ns)
    (h' : List.Forall₂ (fun p n => Finds p false cs' n) ps ns')
    (hle : List.Forall₂ (· ≤ ·) ns ns') :
    ∀ p ∈ ps, ∀ n n', Finds p false cs n → Finds p false cs' n' → n ≤ n' := by
  induction h generalizing ns' with
  | nil => exact fun p hp => absurd hp List.not_mem_nil
  | cons hfirst _ ih =>
    obtain _ | ⟨hfirst', h'⟩ := h'
    obtain _ | ⟨hn, hle⟩ := hle
    refine List.forall_mem_cons.mpr ⟨fun n n' hfinds hfinds' => ?_, ih h' hle⟩
    rw [hfinds.unique hfirst, hfinds'.unique hfirst']
    exact hn

end

/-- A search finds no fewer matches when the text goes on behind a line feed. -/
theorem finds_append_le (cs more : List Char) :
    ∀ p ∈ namedFunction :: branchPatterns, ∀ n n',
      Finds p false cs n → Finds p false (cs ++ '\n' :: more) n' → n ≤ n' :=
  le_of_finds (.cons (finds_namedFunctions _) (finds_branchings _))
    (.cons (finds_namedFunctions _) (finds_branchings _))
    (.cons (namedFunctions_append_le cs _) (branchings_append_le cs more))

/-! ## The complexity in exact arithmetic -/

/-- The counts of a text, each with its factor. -/
def weight (text : List Char) : Rat :=
  codeLines text * (1 / 10) + (branchings text).sum * 2 + deepest text * (3 / 2)
    + namedFunctions text * (1 / 2)

/-- A loop that adds counts with one factor adds their sum. -/
theorem run_forIn_addFactor (factor total : Rat) (counts : List Nat) :
    (ForIn.forIn counts total fun (n : Nat) total => do
      let total ← addFactor factor total n
      pure (.yield total) : Id Rat).run = total + counts.sum * factor := by
  induction counts generalizing total with
  | nil => simp
  | cons n counts ih =>
    have hstep := ih (total + (n : Int) * factor)
    rw [Int.cast_natCast] at hstep
    rw [List.forIn_cons, List.sum_cons, Nat.cast_add, add_mul, ← add_assoc, ← hstep]
    rfl

theorem run_ofText (text : List Char) : (ofText text : Id Rat).run = hundredths (weight text) := by
  have hbranches := run_forIn_addFactor 2 ((codeLines text : Int) * (1 / 10)) (branchings text)
  rw [weight, ← Int.cast_natCast (codeLines text), ← hbranches,
    ← Int.cast_natCast (namedFunctions text)]
  rfl

theorem weight_nil : weight [] = 0 := by
  have hcounts : codeLines [] = 0 ∧ (branchings []).sum = 0 ∧ deepest [] = 0 ∧
      namedFunctions [] = 0 := by decide
  obtain ⟨hlines, hbranches, hdeepest, hfunctions⟩ := hcounts
  rw [weight, hlines, hbranches, hdeepest, hfunctions]
  norm_num

/-- The complexity in exact arithmetic. -/
theorem run_ofSource (text : String) :
    (ofSource (.string text) : Id Rat).run = hundredths (weight text.toList) := by
  rw [ofSource]
  split
  case isTrue hempty =>
    rw [hempty, String.toList_empty, weight_nil, isHundredth_zero.hundredths_eq]
    rfl
  case isFalse => exact run_ofText text.toList

theorem weight_append_le (cs more : List Char) : weight cs ≤ weight (cs ++ '\n' :: more) := by
  have hlines : (codeLines cs : Rat) ≤ codeLines (cs ++ '\n' :: more) :=
    Nat.cast_le.mpr (codeLines_append_le cs more)
  have hbranches : ((branchings cs).sum : Rat) ≤ (branchings (cs ++ '\n' :: more)).sum :=
    Nat.cast_le.mpr (branchings_append_le cs more).sum_le_sum
  have hdeepest : (deepest cs : Rat) ≤ deepest (cs ++ '\n' :: more) :=
    Int.cast_le.mpr (deepest_append_le cs _)
  have hfunctions : (namedFunctions cs : Rat) ≤ namedFunctions (cs ++ '\n' :: more) :=
    Nat.cast_le.mpr (namedFunctions_append_le cs _)
  unfold weight
  linarith

/-- **More text.** What is written after a text, from a new line on, makes neither its complexity
nor any of the counts smaller, and none of the searches finds fewer matches. -/
theorem complexity_append (s t : String) :
    (ofSource (.string s) : Id Rat).run ≤ (ofSource (.string (s ++ "\n" ++ t)) : Id Rat).run ∧
      codeLines s.toList ≤ codeLines (s ++ "\n" ++ t).toList ∧
      List.Forall₂ (· ≤ ·) (branchings s.toList) (branchings (s ++ "\n" ++ t).toList) ∧
      deepest s.toList ≤ deepest (s ++ "\n" ++ t).toList ∧
      namedFunctions s.toList ≤ namedFunctions (s ++ "\n" ++ t).toList ∧
      ∀ p ∈ namedFunction :: branchPatterns, ∀ n n',
        Finds p false s.toList n → Finds p false (s ++ "\n" ++ t).toList n' → n ≤ n' := by
  have happend : (s ++ "\n" ++ t).toList = s.toList ++ '\n' :: t.toList := by simp
  rw [run_ofSource, run_ofSource, happend]
  exact ⟨hundredths_mono (weight_append_le _ _), codeLines_append_le _ _, branchings_append_le _ _,
    deepest_append_le _ _, namedFunctions_append_le _ _, finds_append_le _ _⟩

end FlowLint.Complexity
