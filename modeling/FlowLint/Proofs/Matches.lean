import FlowLint.Proofs.Totality
import Mathlib.Data.List.Forall2
import Mathlib.Data.List.TakeWhile

/-!
# Matches in a text

The complexity of a text counts the places where something starts. Here the same numbers come from
a search for patterns: it goes through the text from left to right, takes the longest match where
there is one, and goes on behind it.

* `Pattern`: what a search looks for. `Finds` says how many matches it finds, and no search finds
  two different numbers (`Finds.unique`).
* `finds_countStarts`: places and matches are equally many if no match starts inside another one
  (`Pattern.Apart`).
* `head`, `caseHead`, `operator`, `conditional` and `namedFunction` are the patterns that matter.
* `headStarts_iff`, `caseStarts_iff` and `namedFunctionStarts_iff`: where these patterns have a
  match. `finds_operator` and `finds_conditional`: operators are found one after another, and
  conditionals line by line.
* `finds_branchings` and `finds_namedFunctions`: what is counted are matches.
-/

namespace FlowLint.Complexity

/-! ## Searching -/

/-- What a search looks for. -/
structure Pattern where
  /-- May a match follow a character of a word? -/
  inWords : Prop
  /-- The texts that match. -/
  Matches : List Char → Prop

/-- The text `cs` starts with the match `m`. The flag says whether the text follows a character of a
word. -/
structure Pattern.At (p : Pattern) (inWord : Bool) (cs m : List Char) : Prop where
  allowed : inWord = true → p.inWords
  starts : m <+: cs
  isMatch : p.Matches m

/-- A search through a text finds a number of matches. Where there is a match, it takes the longest
one and goes on behind it. -/
inductive Finds (p : Pattern) : (inWord : Bool) → (cs : List Char) → Nat → Prop
  | nil {inWord : Bool} : Finds p inWord [] 0
  | skip {inWord : Bool} {c : Char} {cs : List Char} {n : Nat}
      (hnone : ∀ m, ¬ p.At inWord (c :: cs) m) (hrest : Finds p (isWordChar c) cs n) :
      Finds p inWord (c :: cs) n
  | take {inWord : Bool} {cs front more : List Char} {last : Char} {n : Nat}
      (hcs : cs = front ++ last :: more) (hmatch : p.At inWord cs (front ++ [last]))
      (hlongest : ∀ m, p.At inWord cs m → m.length ≤ (front ++ [last]).length)
      (hrest : Finds p (isWordChar last) more n) : Finds p inWord cs (n + 1)

section

variable {p : Pattern} {inWord : Bool} {cs m more : List Char}

theorem Pattern.At.append (h : p.At inWord cs m) (more : List Char) : p.At inWord (cs ++ more) m :=
  { h with starts := h.starts.trans (List.prefix_append cs more) }

/-- Two longest matches are the same. -/
theorem Pattern.At.eq_of_longest {m' : List Char} (h : p.At inWord cs m) (h' : p.At inWord cs m')
    (hle : m.length ≤ m'.length) (hge : m'.length ≤ m.length) : m = m' :=
  (List.prefix_of_prefix_length_le h.starts h'.starts hle).eq_of_length (Nat.le_antisymm hle hge)

/-- Where there is a match, there is a longest one. -/
theorem Pattern.At.exists_longest (h : p.At inWord cs m) :
    ∃ m', p.At inWord cs m' ∧ ∀ m'', p.At inWord cs m'' → m''.length ≤ m'.length := by
  induction hk : cs.length - m.length using Nat.strongRecOn generalizing m with
  | _ k ih =>
    by_cases hlongest : ∀ m', p.At inWord cs m' → m'.length ≤ m.length
    · exact ⟨m, h, hlongest⟩
    · simp only [not_forall, Nat.not_le] at hlongest
      obtain ⟨m', h', hlt⟩ := hlongest
      have hle := h'.starts.length_le
      exact ih _ (by omega) h' rfl

/-- A search has one outcome. -/
theorem Finds.unique {n n' : Nat} (h : Finds p inWord cs n) (h' : Finds p inWord cs n') :
    n = n' := by
  induction h generalizing n' with
  | nil =>
    cases h' with
    | nil => rfl
    | take hcs => simp at hcs
  | skip hnone _ ih =>
    cases h' with
    | skip _ hrest => exact ih hrest
    | take _ hmatch => exact absurd hmatch (hnone _)
  | take hcs hmatch hlongest _ ih =>
    cases h' with
    | nil => simp at hcs
    | skip hnone => exact absurd hmatch (hnone _)
    | take hcs' hmatch' hlongest' hrest =>
      obtain ⟨rfl, hlast⟩ := List.append_inj' (hmatch.eq_of_longest hmatch'
        (hlongest' _ hmatch) (hlongest _ hmatch')) rfl
      cases hlast
      cases List.append_cancel_left (hcs.symm.trans hcs')
      rw [ih hrest]

/-- No match starts inside another one. -/
def Pattern.Apart (p : Pattern) : Prop :=
  ∀ front inner more m : List Char, front ≠ [] → inner ≠ [] → p.Matches (front ++ inner) →
    m <+: inner ++ more → ¬ p.Matches m

/-- Where nothing starts, nothing is counted. -/
theorem countStarts_of_none {starts : Bool → List Char → Bool} {inner : List Char} {last : Char}
    (hnone : ∀ inWord cs, cs ≠ [] → cs <:+ inner ++ [last] → starts inWord (cs ++ more) = false)
    (inWord : Bool) :
    countStarts starts inWord (inner ++ last :: more) =
      countStarts starts (isWordChar last) more := by
  induction inner generalizing inWord with
  | nil =>
    have hhere := hnone inWord [last] (List.cons_ne_nil _ _) (List.suffix_refl _)
    rw [List.singleton_append] at hhere
    rw [List.nil_append, countStarts, hhere, if_neg Bool.false_ne_true, Nat.zero_add]
  | cons c inner ih =>
    have hhere := hnone inWord (c :: (inner ++ [last])) (List.cons_ne_nil _ _) (List.suffix_refl _)
    rw [List.cons_append, List.append_assoc, List.singleton_append] at hhere
    have hrest := ih fun inWord cs hcs hsuffix =>
      hnone inWord cs hcs (hsuffix.trans (List.suffix_cons c _))
    rw [List.cons_append, countStarts, hhere, if_neg Bool.false_ne_true, Nat.zero_add,
      hrest (isWordChar c)]

/-- Behind the first character of a match, the count goes on behind the match. -/
theorem countStarts_of_match {starts : Bool → List Char → Bool}
    (hstarts : ∀ inWord cs, starts inWord cs = true ↔ ∃ m, p.At inWord cs m) (hapart : p.Apart)
    {c last : Char} {front : List Char} (hmatch : p.Matches (front ++ [last]))
    (hcs : c :: cs = front ++ last :: more) :
    countStarts starts (isWordChar c) cs = countStarts starts (isWordChar last) more := by
  cases front with
  | nil =>
    cases hcs
    rfl
  | cons d front =>
    cases hcs
    refine countStarts_of_none (fun inWord inner hinner hsuffix => ?_) _
    obtain ⟨before, hbefore⟩ := hsuffix
    refine eq_false_of_ne_true fun hstart => ?_
    obtain ⟨m, hm⟩ := (hstarts inWord _).mp hstart
    rw [List.cons_append, ← hbefore] at hmatch
    exact hapart (c :: before) inner more m (List.cons_ne_nil _ _) hinner hmatch hm.starts
      hm.isMatch

/-- If matches keep apart, there are as many of them as places where one starts. -/
theorem finds_countStarts {starts : Bool → List Char → Bool}
    (hstarts : ∀ inWord cs, starts inWord cs = true ↔ ∃ m, p.At inWord cs m)
    (hne : ¬ p.Matches []) (hapart : p.Apart) (inWord : Bool) (cs : List Char) :
    Finds p inWord cs (countStarts starts inWord cs) := by
  induction hk : cs.length using Nat.strongRecOn generalizing inWord cs with
  | _ k ih =>
    match cs with
    | [] => exact .nil
    | c :: cs =>
      rw [List.length_cons] at hk
      rw [countStarts]
      split
      case isTrue hhere =>
        obtain ⟨m, hm⟩ := (hstarts inWord (c :: cs)).mp hhere
        obtain ⟨m, hm, hlongest⟩ := hm.exists_longest
        rcases List.eq_nil_or_concat m with rfl | ⟨front, last, rfl⟩
        · exact absurd hm.isMatch hne
        · rw [List.concat_eq_append] at hm hlongest
          obtain ⟨more, hcs⟩ := hm.starts
          rw [List.append_assoc, List.singleton_append] at hcs
          have hlength := congrArg List.length hcs
          rw [List.length_append, List.length_cons, List.length_cons] at hlength
          rw [countStarts_of_match hstarts hapart hm.isMatch hcs.symm, Nat.add_comm]
          exact .take hcs.symm hm hlongest (ih more.length (by omega) _ _ rfl)
      case isFalse hhere =>
        rw [Nat.zero_add]
        exact .skip (fun m hm => hhere ((hstarts inWord _).mpr ⟨m, hm⟩))
          (ih cs.length (by omega) _ _ rfl)

end

/-! ## Patterns -/

/-- All characters are blanks. -/
def AllBlank (cs : List Char) : Prop :=
  ∀ c ∈ cs, Text.isBlank c = true

/-- All characters are characters of words. -/
def AllWord (cs : List Char) : Prop :=
  ∀ c ∈ cs, isWordChar c = true

instance : DecidablePred AllWord := fun cs =>
  decidable_of_iff (cs.all isWordChar = true) List.all_eq_true

/-- A keyword on its own, any number of blanks and an opening bracket. -/
def head (word : String) : Pattern where
  inWords := False
  Matches m := ∃ blanks, m = word.toList ++ (blanks ++ ['(']) ∧ AllBlank blanks

/-- The keyword of a case on its own and one or more blanks. -/
def caseHead : Pattern where
  inWords := False
  Matches m := ∃ blank blanks, m = "case".toList ++ blank :: blanks ∧ AllBlank (blank :: blanks)

/-- A logical operator. -/
def operator : Pattern where
  inWords := True
  Matches m := m = ['&', '&'] ∨ m = ['|', '|']

/-- A question mark and a colon on the same line. -/
def conditional : Pattern where
  inWords := True
  Matches m := ∃ between, m = '?' :: (between ++ [':']) ∧ '\n' ∉ between

/-- The keyword of a function, blanks, a name, any number of blanks and an opening bracket. -/
def namedFunction : Pattern where
  inWords := True
  Matches m := ∃ blank blanks letter name gap,
    m = "function".toList ++ blank :: (blanks ++ letter :: (name ++ (gap ++ ['(']))) ∧
      AllBlank (blank :: blanks) ∧ AllWord (letter :: name) ∧ AllBlank gap

theorem after?_eq_some_iff {word : String} {cs rest : List Char} :
    after? word cs = some rest ↔ cs = word.toList ++ rest := by
  unfold after?
  rw [← String.length_toList]
  constructor
  · intro h
    split at h
    case isTrue hprefix =>
      obtain ⟨rest', rfl⟩ := List.isPrefixOf_iff_prefix.mp hprefix
      rw [List.drop_left] at h
      cases h
      rfl
    case isFalse => cases h
  · rintro rfl
    rw [if_pos (List.isPrefixOf_iff_prefix.mpr (List.prefix_append _ _)), List.drop_left]

theorem dropWhile_eq_cons_iff {p : Char → Bool} {cs more : List Char} {c : Char} :
    cs.dropWhile p = c :: more ↔
      ∃ run, cs = run ++ c :: more ∧ (∀ a ∈ run, p a = true) ∧ p c = false := by
  constructor
  · intro h
    refine ⟨cs.takeWhile p, ?_, fun a => List.mem_takeWhile_imp, ?_⟩
    · rw [← h, List.takeWhile_append_dropWhile]
    · have hhead := List.head?_dropWhile_not p cs
      rw [h] at hhead
      simpa using hhead
  · rintro ⟨run, rfl, hrun, hc⟩
    rw [List.dropWhile_append_of_pos hrun, List.dropWhile_cons_of_neg (by simp [hc])]

theorem bracketFollows_iff {cs : List Char} :
    bracketFollows cs = true ↔ ∃ blanks more, cs = blanks ++ '(' :: more ∧ AllBlank blanks := by
  rw [bracketFollows, beq_iff_eq, List.head?_eq_some_iff]
  constructor
  · rintro ⟨more, hmore⟩
    obtain ⟨blanks, rfl, hblanks, -⟩ := dropWhile_eq_cons_iff.mp hmore
    exact ⟨blanks, more, rfl, hblanks⟩
  · rintro ⟨blanks, more, rfl, hblanks⟩
    exact ⟨more, dropWhile_eq_cons_iff.mpr ⟨blanks, rfl, hblanks, by decide⟩⟩

/-- A character of a word is no blank. -/
theorem not_isBlank_of_isWordChar {c : Char} (h : isWordChar c = true) :
    Text.isBlank c = false := by
  have hbounds : 47 < c.toNat ∧ c.toNat < 128 := by
    have hnat : c.toNat = c.val.toNat := rfl
    -- The upper-case and lower-case letters, the digits and the underscore.
    change ((decide (65 ≤ c.val ∧ c.val ≤ 90) || (97 ≤ c.val && c.val ≤ 122)) ||
      (48 ≤ c.val && c.val ≤ 57) || c = '_') = true at h
    simp only [Bool.or_eq_true, Bool.and_eq_true, decide_eq_true_eq, UInt32.le_iff_toNat_le,
      UInt32.reduceToNat] at h
    rcases h with h | rfl
    · omega
    · decide
  simp only [Text.isBlank, Text.isSpaceSeparator, Bool.or_eq_false_iff, Bool.and_eq_false_iff,
    decide_eq_false_iff_not]
  omega

/-- After blanks and a bracket no word goes on. -/
theorem exists_cons_of_gap {gap : List Char} (hgap : AllBlank gap) (more : List Char) :
    ∃ c cs, gap ++ '(' :: more = c :: cs ∧ isWordChar c = false := by
  cases gap with
  | nil => exact ⟨'(', more, rfl, by decide⟩
  | cons c gap =>
    refine ⟨c, gap ++ '(' :: more, rfl, eq_false_of_ne_true fun h => ?_⟩
    have hblank := hgap c List.mem_cons_self
    rw [not_isBlank_of_isWordChar h] at hblank
    cases hblank

theorem any_head?_iff {p : Char → Bool} {cs : List Char} :
    cs.head?.any p = true ↔ ∃ c more, cs = c :: more ∧ p c = true := by
  cases cs with
  | nil => simp
  | cons c more => simp

/-- A keyword on its own, with a condition on what follows it. -/
theorem keyword_iff {word : String} {inWord : Bool} {cs : List Char} {follows : List Char → Bool} :
    (!inWord && ((after? word cs).map follows).getD false) = true ↔
      inWord = false ∧ ∃ rest, cs = word.toList ++ rest ∧ follows rest = true := by
  rw [Bool.and_eq_true, Bool.not_eq_true']
  refine and_congr_right fun _ => ?_
  constructor
  · intro h
    cases hafter : after? word cs with
    | none => rw [hafter] at h; cases h
    | some rest =>
      rw [hafter] at h
      exact ⟨rest, after?_eq_some_iff.mp hafter, h⟩
  · rintro ⟨rest, hcs, h⟩
    rw [after?_eq_some_iff.mpr hcs]
    exact h

theorem headStarts_iff {word : String} {inWord : Bool} {cs : List Char} :
    headStarts word inWord cs = true ↔ ∃ m, (head word).At inWord cs m := by
  rw [headStarts, keyword_iff]
  constructor
  · rintro ⟨hword, rest, rfl, h⟩
    obtain ⟨blanks, more, rfl, hblanks⟩ := bracketFollows_iff.mp h
    exact ⟨_, ne_true_of_eq_false hword, ⟨more, by simp⟩, blanks, rfl, hblanks⟩
  · rintro ⟨_, hword, ⟨more, rfl⟩, blanks, rfl, hblanks⟩
    refine ⟨eq_false_of_ne_true hword, blanks ++ '(' :: more, by simp, ?_⟩
    exact bracketFollows_iff.mpr ⟨blanks, more, rfl, hblanks⟩

theorem caseStarts_iff {inWord : Bool} {cs : List Char} :
    caseStarts inWord cs = true ↔ ∃ m, caseHead.At inWord cs m := by
  rw [caseStarts, keyword_iff]
  constructor
  · rintro ⟨hword, rest, rfl, h⟩
    cases rest with
    | nil => cases h
    | cons blank more =>
      have hblank : AllBlank [blank] := fun c hc => by rw [List.mem_singleton.mp hc]; exact h
      exact ⟨_, ne_true_of_eq_false hword, ⟨more, by simp⟩, blank, [], rfl, hblank⟩
  · rintro ⟨_, hword, ⟨more, rfl⟩, blank, blanks, rfl, hblanks⟩
    refine ⟨eq_false_of_ne_true hword, blank :: (blanks ++ more), by simp, ?_⟩
    exact hblanks blank List.mem_cons_self

theorem namedFunctionStarts_iff {inWord : Bool} {cs : List Char} :
    namedFunctionStarts inWord cs = true ↔ ∃ m, namedFunction.At inWord cs m := by
  rw [namedFunctionStarts]
  constructor
  · intro h
    cases hafter : after? "function" cs with
    | none => rw [hafter] at h; cases h
    | some rest =>
      obtain rfl := after?_eq_some_iff.mp hafter
      rw [hafter] at h
      simp only [Bool.and_eq_true] at h
      obtain ⟨⟨hblank, hname⟩, hbracket⟩ := h
      obtain ⟨letter, after, hname, hletter⟩ := any_head?_iff.mp hname
      rw [hname] at hbracket
      obtain ⟨run, rfl, hrun, hnot⟩ := dropWhile_eq_cons_iff.mp hname
      obtain ⟨gap, more, hgap, hgapBlank⟩ := bracketFollows_iff.mp hbracket
      rw [List.dropWhile_cons_of_pos hletter] at hgap
      match run with
      | [] => simp [hnot] at hblank
      | blank :: blanks =>
        have hword : AllWord (letter :: after.takeWhile isWordChar) :=
          List.forall_mem_cons.mpr ⟨hletter, fun c => List.mem_takeWhile_imp⟩
        refine ⟨_, fun _ => trivial, ⟨more, ?_⟩, blank, blanks, letter, _, gap, rfl, hrun, hword,
          hgapBlank⟩
        conv_rhs => rw [← List.takeWhile_append_dropWhile (p := isWordChar) (l := after), hgap]
        simp
  · rintro ⟨_, -, ⟨more, rfl⟩, blank, blanks, letter, name, gap, rfl, hblanks, hname, hgap⟩
    obtain ⟨hletter, hname⟩ := List.forall_mem_cons.mp hname
    obtain ⟨c, cs, hcs, hc⟩ := exists_cons_of_gap hgap more
    have hafter : after? "function" ("function".toList
        ++ blank :: (blanks ++ letter :: (name ++ (gap ++ ['(']))) ++ more) =
          some (blank :: blanks ++ letter :: (name ++ c :: cs)) :=
      after?_eq_some_iff.mpr (by simp [← hcs])
    have hdrop : (blank :: blanks ++ letter :: (name ++ c :: cs)).dropWhile Text.isBlank =
        letter :: (name ++ c :: cs) :=
      dropWhile_eq_cons_iff.mpr ⟨blank :: blanks, rfl, hblanks, not_isBlank_of_isWordChar hletter⟩
    have hdrop' : (letter :: (name ++ c :: cs)).dropWhile isWordChar = c :: cs :=
      dropWhile_eq_cons_iff.mpr ⟨letter :: name, rfl, List.forall_mem_cons.mpr ⟨hletter, hname⟩, hc⟩
    rw [hafter]
    simp only [hdrop, hdrop', Bool.and_eq_true]
    refine ⟨⟨hblanks blank List.mem_cons_self, hletter⟩, ?_⟩
    exact bracketFollows_iff.mpr ⟨gap, more, hcs.symm, hgap⟩

/-! ## Matches keep apart -/

/-- No character is a character of a word. -/
def NoWord (cs : List Char) : Prop :=
  ∀ c ∈ cs, isWordChar c = false

section

variable {word front inner more : List Char}

theorem AllBlank.noWord {cs : List Char} (h : AllBlank cs) : NoWord cs := by
  refine fun c hc => eq_false_of_ne_true fun hword => ?_
  have hblank := h c hc
  rw [not_isBlank_of_isWordChar hword] at hblank
  cases hblank

theorem AllBlank.noWord_bracket {gap : List Char} (h : AllBlank gap) : NoWord (gap ++ ['(']) := by
  intro c hc
  rcases List.mem_append.mp hc with hc | hc
  · exact h.noWord c hc
  · rw [List.mem_singleton.mp hc]
    decide

/-- A prefix does not reach over a character that it does not have. -/
theorem prefix_of_prefix_cons {c : Char} (hc : c ∉ word) (h : word <+: front ++ c :: more) :
    word <+: front := by
  have hfront : front ++ [c] <+: front ++ c :: more := ⟨more, by simp⟩
  rcases Nat.lt_or_ge front.length word.length with hlt | hle
  · have hlonger : front ++ [c] <+: word :=
      List.prefix_of_prefix_length_le hfront h (by rw [List.length_append]; exact hlt)
    exact absurd (hlonger.subset (by simp)) hc
  · exact List.prefix_of_prefix_length_le h (List.prefix_append _ _) hle

/-- A word does not reach over what is no part of a word. -/
theorem AllWord.prefix_of_prefix {c : Char} (hword : AllWord word) (hc : isWordChar c = false)
    (h : word <+: front ++ c :: more) : word <+: front := by
  refine prefix_of_prefix_cons (fun hmem => ?_) h
  rw [hword c hmem] at hc
  cases hc

theorem AllWord.not_prefix_cons {c : Char} (hword : AllWord word) (hne : word ≠ [])
    (hc : isWordChar c = false) : ¬ word <+: c :: more := by
  intro h
  have hnil : word <+: [] := hword.prefix_of_prefix hc h
  exact hne (List.prefix_nil.mp hnil)

theorem AllWord.not_prefix (hword : AllWord word) (hne : word ≠ []) (hinner : inner ≠ [])
    (hnone : NoWord inner) : ¬ word <+: inner ++ more := by
  obtain ⟨c, cs, rfl⟩ := List.exists_cons_of_ne_nil hinner
  exact hword.not_prefix_cons hne (hnone c List.mem_cons_self)

/-- If a word starts again further on in a text, then behind the end of the word. -/
theorem AllWord.exists_of_again {c : Char} {tail : List Char} (hword : AllWord word)
    (hne : word ≠ []) (hc : isWordChar c = false) (hfront : front ≠ [])
    (hsplit : front ++ inner = word ++ c :: tail) (hagain : word <+: inner ++ more) :
    ∃ front', front' ++ inner = tail := by
  rcases List.append_eq_append_iff.mp hsplit with ⟨rest, rfl, rfl⟩ | ⟨rest, rfl, hrest⟩
  · rw [List.append_assoc, List.cons_append] at hagain
    have hle := (hword.prefix_of_prefix hc hagain).length_le
    have hpos := List.length_pos_iff.mpr hfront
    rw [List.length_append] at hle
    omega
  · cases rest with
    | nil =>
      rw [List.nil_append] at hrest
      rw [← hrest] at hagain
      exact absurd hagain (hword.not_prefix_cons hne hc)
    | cons d front' => exact ⟨front', (List.cons.inj hrest).2.symm⟩

/-- Matches that are a word and then no part of a word keep apart. -/
theorem Pattern.apart_of_word {p : Pattern} (hword : AllWord word) (hne : word ≠ [])
    (hp : ∀ m, p.Matches m → ∃ c tail, m = word ++ c :: tail ∧ NoWord (c :: tail)) : p.Apart := by
  intro front inner more m hfront hinner hmatch hprefix hm
  obtain ⟨c, tail, hsplit, hnone⟩ := hp _ hmatch
  obtain ⟨c', tail', rfl, -⟩ := hp m hm
  have hagain : word <+: inner ++ more := (List.prefix_append _ _).trans hprefix
  obtain ⟨front', rfl⟩ :=
    hword.exists_of_again hne (hnone c List.mem_cons_self) hfront hsplit hagain
  refine hword.not_prefix hne hinner (fun d hd => hnone d ?_) hagain
  exact List.mem_cons_of_mem _ (List.mem_append_right _ hd)

theorem head_apart {word : String} (hword : AllWord word.toList) (hne : word.toList ≠ []) :
    (head word).Apart := by
  refine Pattern.apart_of_word hword hne ?_
  rintro m ⟨blanks, rfl, hblanks⟩
  obtain ⟨c, tail, hcs, -⟩ := exists_cons_of_gap hblanks []
  exact ⟨c, tail, by rw [hcs], hcs ▸ hblanks.noWord_bracket⟩

theorem caseHead_apart : caseHead.Apart := by
  have hword : AllWord "case".toList := by decide
  refine Pattern.apart_of_word hword (by decide) ?_
  rintro m ⟨blank, blanks, rfl, hblanks⟩
  exact ⟨blank, blanks, rfl, hblanks.noWord⟩

/-- The keyword of a function does not start again before the name, and from there on the match
has the rest of the name and what follows it. -/
theorem exists_of_function_again {blank letter : Char} {blanks name gap : List Char}
    (hblanks : AllBlank (blank :: blanks)) (hname : AllWord (letter :: name)) (hgap : AllBlank gap)
    (hfront : front ≠ []) (hinner : inner ≠ [])
    (hsplit : front ++ inner =
      "function".toList ++ blank :: (blanks ++ letter :: (name ++ (gap ++ ['(']))))
    (hagain : "function".toList <+: inner ++ more) :
    ∃ rest, AllWord rest ∧ inner = rest ++ (gap ++ ['(']) := by
  have hword : AllWord "function".toList := by decide
  have hne : "function".toList ≠ [] := by decide
  have hblank := hblanks.noWord blank List.mem_cons_self
  obtain ⟨front', htail⟩ := hword.exists_of_again hne hblank hfront hsplit hagain
  rcases List.append_eq_append_iff.mp htail with ⟨rest, hrest, rfl⟩ | ⟨rest, -, hrest⟩
  · cases rest with
    | nil => exact ⟨letter :: name, hname, rfl⟩
    | cons c rest =>
      have hc : c ∈ blank :: blanks := List.mem_cons_of_mem _ (hrest ▸ by simp)
      exact absurd hagain (hword.not_prefix_cons hne (hblanks.noWord c hc))
  · rw [← List.cons_append] at hrest
    rcases List.append_eq_append_iff.mp hrest with ⟨rest', -, hgapSplit⟩ | ⟨rest', hnameSplit, rfl⟩
    · refine absurd hagain (hword.not_prefix hne hinner fun c hc => hgap.noWord_bracket c ?_)
      exact hgapSplit ▸ List.mem_append_right _ hc
    · exact ⟨rest', fun c hc => hname c (hnameSplit ▸ List.mem_append_right _ hc), rfl⟩

theorem namedFunction_apart : namedFunction.Apart := by
  rintro front inner more m hfront hinner ⟨blank, blanks, letter, name, gap, hsplit, hblanks, hname,
    hgap⟩ hprefix ⟨blank', blanks', letter', name', gap', rfl, hblanks', hname', -⟩
  have hagain : "function".toList <+: inner ++ more := (List.prefix_append _ _).trans hprefix
  obtain ⟨rest, hrest, rfl⟩ :=
    exists_of_function_again hblanks hname hgap hfront hinner hsplit hagain
  obtain ⟨c, cs, hcs, hc⟩ := exists_cons_of_gap hgap more
  rw [List.append_assoc, List.append_assoc, List.singleton_append] at hprefix hagain
  obtain ⟨rest, rfl⟩ := AllWord.prefix_of_prefix (by decide) hc (hcs ▸ hagain)
  rw [List.append_assoc, List.prefix_append_right_inj] at hprefix
  -- What is left of the name would have to go on with a blank. So nothing is left of it, and the
  -- bracket stands where the second match has its name.
  obtain ⟨after, hafter⟩ := hprefix
  cases rest with
  | cons d rest =>
    have hd : blank' = d := (List.cons.inj hafter).1
    have hword := hrest d (by simp)
    rw [← hd, hblanks'.noWord blank' List.mem_cons_self] at hword
    cases hword
  | nil =>
    have hletter := hname' letter' List.mem_cons_self
    have hdrop : (gap ++ '(' :: more).dropWhile Text.isBlank = '(' :: more :=
      dropWhile_eq_cons_iff.mpr ⟨gap, rfl, hgap, by decide⟩
    have hdrop' : (gap ++ '(' :: more).dropWhile Text.isBlank =
        letter' :: (name' ++ (gap' ++ ['(']) ++ after) :=
      dropWhile_eq_cons_iff.mpr ⟨blank' :: blanks',
        by rw [List.nil_append] at hafter; simp [← hafter], hblanks',
        not_isBlank_of_isWordChar hletter⟩
    rw [← (List.cons.inj (hdrop.symm.trans hdrop')).1] at hletter
    exact absurd hletter (by decide)

end

/-! ## Operators -/

theorem finds_operator (inWord : Bool) (cs : List Char) :
    Finds operator inWord cs (logicalOperators cs) := by
  have hlength : ∀ m, operator.Matches m → m.length = 2 := by
    rintro m (rfl | rfl) <;> rfl
  fun_induction logicalOperators cs generalizing inWord with
  | case1 cs ih =>
    have hcs : '&' :: '&' :: cs = ['&'] ++ '&' :: cs := rfl
    refine .take hcs ⟨fun _ => trivial, ⟨cs, rfl⟩, .inl rfl⟩ ?_ (ih _)
    exact fun m hm => (hlength m hm.isMatch).le
  | case2 cs ih =>
    have hcs : '|' :: '|' :: cs = ['|'] ++ '|' :: cs := rfl
    refine .take hcs ⟨fun _ => trivial, ⟨cs, rfl⟩, .inr rfl⟩ ?_ (ih _)
    exact fun m hm => (hlength m hm.isMatch).le
  | case3 c cs hand hor ih =>
    refine .skip ?_ (ih _)
    rintro m ⟨-, ⟨more, hcs⟩, rfl | rfl⟩
    · exact hand more (List.cons.inj hcs).1.symm (List.cons.inj hcs).2.symm
    · exact hor more (List.cons.inj hcs).1.symm (List.cons.inj hcs).2.symm
  | case4 => exact .nil

/-! ## Conditionals, line by line -/

/-- What follows a line: nothing, or a line feed. -/
def EndsLine (rest : List Char) : Prop :=
  rest = [] ∨ ∃ more, rest = '\n' :: more

theorem holdsConditional_iff {line : Line} :
    holdsConditional line = true ↔
      ∃ before between after, line = before ++ '?' :: (between ++ ':' :: after) := by
  unfold holdsConditional
  rw [List.contains_iff_mem]
  constructor
  · intro h
    obtain ⟨c, more, hdrop⟩ := List.exists_cons_of_ne_nil (List.ne_nil_of_mem h)
    obtain ⟨before, rfl, -, hc⟩ := dropWhile_eq_cons_iff.mp hdrop
    obtain rfl : c = '?' := by simpa using hc
    rw [hdrop] at h
    obtain ⟨between, after, rfl⟩ := List.append_of_mem (List.mem_of_ne_of_mem (by decide) h)
    exact ⟨before, between, after, rfl⟩
  · rintro ⟨before, between, after, rfl⟩
    induction before with
    | nil => simp
    | cons c before ih =>
      rw [List.cons_append, List.dropWhile_cons]
      split
      case isTrue => exact ih
      case isFalse => simp

section

variable {inWord : Bool} {line rest m : List Char} {n : Nat}

/-- A conditional does not reach over the end of its line. -/
theorem conditional_at (hrest : EndsLine rest) (h : conditional.At inWord (line ++ rest) m) :
    ∃ between after, m = '?' :: (between ++ [':']) ∧ line = m ++ after := by
  obtain ⟨-, hprefix, between, rfl, hbetween⟩ := h
  have hline : '?' :: (between ++ [':']) <+: line := by
    rcases hrest with rfl | ⟨more, rfl⟩
    · rwa [List.append_nil] at hprefix
    · exact prefix_of_prefix_cons (by simpa using hbetween) hprefix
  obtain ⟨after, rfl⟩ := hline
  exact ⟨between, after, rfl, rfl⟩

theorem finds_of_no_conditional (hrest : EndsLine rest) (hline : holdsConditional line = false)
    (hfinds : ∀ inWord, Finds conditional inWord rest n) (inWord : Bool) :
    Finds conditional inWord (line ++ rest) n := by
  induction line generalizing inWord with
  | nil => exact hfinds inWord
  | cons c line ih =>
    rw [← Bool.not_eq_true, holdsConditional_iff] at hline ih
    refine .skip (fun m (hm : conditional.At inWord (c :: line ++ rest) m) => hline ?_) (ih ?_ _)
    · obtain ⟨between, after, rfl, hsplit⟩ := conditional_at hrest hm
      exact ⟨[], between, after, by simpa using hsplit⟩
    · rintro ⟨before, between, after, rfl⟩
      exact hline ⟨c :: before, between, after, rfl⟩

theorem finds_of_conditional (hrest : EndsLine rest) (hnewline : '\n' ∉ line)
    (hline : holdsConditional line = true)
    (hfinds : ∀ inWord, Finds conditional inWord rest n) (inWord : Bool) :
    Finds conditional inWord (line ++ rest) (n + 1) := by
  induction line generalizing inWord with
  | nil => cases hline
  | cons c line ih =>
    by_cases hhere : ∃ m, conditional.At inWord (c :: line ++ rest) m
    · obtain ⟨m, hm⟩ := hhere
      obtain ⟨m, hm, hlongest⟩ := hm.exists_longest
      obtain ⟨between, after, rfl, hsplit⟩ := conditional_at hrest hm
      rw [hsplit] at hnewline hm hlongest ⊢
      have hcs : '?' :: (between ++ [':']) ++ after ++ rest =
          '?' :: between ++ ':' :: (after ++ rest) := by simp
      refine .take hcs hm hlongest (finds_of_no_conditional hrest ?_ hfinds _)
      -- A colon in what is left of the line would make the match longer.
      rw [← Bool.not_eq_true, holdsConditional_iff]
      rintro ⟨before, between', after', rfl⟩
      have hlonger := hlongest ('?' :: ((between ++ ':' :: before ++ '?' :: between') ++ [':']))
        ⟨fun _ => trivial, ⟨after' ++ rest, by simp⟩, _, rfl, fun hmem => hnewline ?_⟩
      · simp at hlonger
      · simp only [List.mem_append, List.mem_cons] at hmem ⊢
        tauto
    · obtain ⟨before, between, after, hsplit⟩ := holdsConditional_iff.mp hline
      cases before with
      | nil =>
        refine absurd ⟨_, fun _ => trivial, ⟨after ++ rest, ?_⟩, between, rfl, fun hmem => ?_⟩ hhere
        · simp [hsplit]
        · exact hnewline (hsplit ▸ by simp [hmem])
      | cons d before =>
        refine .skip (fun m hm => hhere ⟨m, hm⟩) (ih (List.not_mem_of_not_mem_cons hnewline) ?_ _)
        exact holdsConditional_iff.mpr ⟨before, between, after, (List.cons.inj hsplit).2⟩

theorem finds_line (hrest : EndsLine rest) (hnewline : '\n' ∉ line)
    (hfinds : ∀ inWord, Finds conditional inWord rest n) (inWord : Bool) :
    Finds conditional inWord (line ++ rest) ([line].countP holdsConditional + n) := by
  rw [List.countP_singleton]
  split
  case isTrue hline =>
    rw [Nat.add_comm]
    exact finds_of_conditional hrest hnewline hline hfinds inWord
  case isFalse hline =>
    rw [Nat.zero_add]
    exact finds_of_no_conditional hrest (eq_false_of_ne_true hline) hfinds inWord

end

theorem finds_conditional (inWord : Bool) (text : List Char) :
    Finds conditional inWord text ((splitLines text).countP holdsConditional) := by
  induction hk : text.length using Nat.strongRecOn generalizing inWord text with
  | _ k ih =>
    by_cases hnewline : '\n' ∈ text
    · obtain ⟨line, more, rfl, hline⟩ := List.eq_append_cons_of_mem hnewline
      rw [List.length_append, List.length_cons] at hk
      rw [splitLines_append, splitLines_of_not_mem hline, List.countP_append]
      refine finds_line (.inr ⟨more, rfl⟩) hline (fun inWord => .skip ?_ ?_) inWord
      · rintro m ⟨-, ⟨after, hafter⟩, between, rfl, -⟩
        exact absurd (List.cons.inj hafter).1 (by decide)
      · exact ih more.length (by omega) _ _ rfl
    · have hfinds := finds_line (.inl rfl) hnewline (fun _ => .nil) inWord
      rwa [List.append_nil, ← splitLines_of_not_mem hnewline] at hfinds

/-! ## What is counted -/

/-- The patterns of the places where control may branch. -/
def branchPatterns : List Pattern :=
  ["if", "while", "for", "catch", "switch"].map head ++ [caseHead, operator, conditional]

/-- Kind by kind, as many places where control may branch are counted as a search finds. -/
theorem finds_branchings (text : List Char) :
    List.Forall₂ (fun p n => Finds p false text n) branchPatterns (branchings text) := by
  refine List.rel_append ?_ (.cons ?_ (.cons ?_ (.cons ?_ .nil)))
  · rw [List.forall₂_map_left_iff, List.forall₂_map_right_iff, List.forall₂_same]
    intro word hword
    have hwords : ∀ word ∈ ["if", "while", "for", "catch", "switch"],
        AllWord word.toList ∧ word.toList ≠ [] := by decide
    obtain ⟨hword, hne⟩ := hwords word hword
    refine finds_countStarts (fun _ _ => headStarts_iff) ?_ (head_apart hword hne) _ _
    rintro ⟨blanks, h, -⟩
    simp at h
  · refine finds_countStarts (fun _ _ => caseStarts_iff) ?_ caseHead_apart _ _
    rintro ⟨blank, blanks, h, -⟩
    simp at h
  · exact finds_operator _ _
  · exact finds_conditional _ _

/-- A keyword and its bracket may stand on different lines, a question mark and its colon not. -/
example : branchings "if\n(a) b ? c\n: d".toList = [1, 0, 0, 0, 0, 0, 0, 0] := by decide

/-- As many named functions are counted as a search finds. -/
theorem finds_namedFunctions (text : List Char) :
    Finds namedFunction false text (namedFunctions text) := by
  refine finds_countStarts (fun _ _ => namedFunctionStarts_iff) ?_ namedFunction_apart _ _
  rintro ⟨blank, blanks, letter, name, gap, h, -⟩
  simp at h

end FlowLint.Complexity
