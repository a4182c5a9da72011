import FlowLint.Proofs.Conversion
import FlowLint.Proofs.Numerals
import FlowLint.Script.Literal
import Mathlib.Data.List.TakeWhile

/-!
# Escape sequences

A quoted text is cut from left to right into plain characters and escape sequences. Here the cut is
described by what an escape sequence may look like, and the value of a text by what each part of the
cut stands for.

* `Sequence`: an escape sequence that is longer than one character, or made of octal digits.
  `Matches` adds the sequences of one character.
* `Splits`: the cut of a text. There is exactly one, `pieces` (`splits_iff`).
* `Piece.StandsFor`: what a part of the cut stands for. `Unrepresentable` are the sequences that
  stand for nothing.
* `cook_fails_iff`: a text has no value exactly if such a sequence is among its parts.
-/

namespace FlowLint.Script

open Reading

/-! ## The cut of a text -/

/-- An escape sequence, without its backslash, in front of some text: a code point in braces, four
or two hexadecimal digits, octal digits up to three, or a carriage return with its line feed. -/
inductive Sequence : List Char → List Char → Prop
  | braced {digits : List Char} (hne : digits ≠ []) (hdigits : ∀ c ∈ digits, Text.isHexDigit c)
      (rest : List Char) : Sequence ('u' :: '{' :: (digits ++ ['}'])) rest
  | four {digits : List Char} (hlength : digits.length = 4)
      (hdigits : ∀ c ∈ digits, Text.isHexDigit c) (rest : List Char) : Sequence ('u' :: digits) rest
  | two {digits : List Char} (hlength : digits.length = 2)
      (hdigits : ∀ c ∈ digits, Text.isHexDigit c) (rest : List Char) : Sequence ('x' :: digits) rest
  /-- Fewer than three digits only if no more of them follow. -/
  | octal {digits rest : List Char} (hne : digits ≠ []) (hlength : digits.length ≤ 3)
      (hdigits : ∀ c ∈ digits, Text.isOctalDigit c)
      (hend : digits.length = 3 ∨ ∀ c ∈ rest.head?, Text.isOctalDigit c = false) :
      Sequence digits rest
  | carriageReturn (rest : List Char) : Sequence ['\r', '\n'] rest

/-- An escape sequence of any length in front of some text. One character alone is a sequence if no
longer one starts with it. -/
inductive Matches : List Char → List Char → Prop
  | long {s rest : List Char} (h : Sequence s rest) : Matches s rest
  | single {c : Char} {rest : List Char}
      (h : ∀ s rest', Sequence s rest' → c :: rest ≠ s ++ rest') : Matches [c] rest

/-- A text is cut into pieces. A backslash at the very end is plain. -/
inductive Splits : List Char → List Piece → Prop
  | nil : Splits [] []
  | plain {c : Char} {cs : List Char} {ps : List Piece} (hc : c ≠ '\\') (h : Splits cs ps) :
      Splits (c :: cs) (.plain c :: ps)
  | trailing : Splits ['\\'] [.plain '\\']
  | escape {s rest : List Char} {ps : List Piece} (hs : Matches s rest) (h : Splits rest ps) :
      Splits ('\\' :: (s ++ rest)) (.escape s :: ps)

/-! ## Lengths of sequences -/

/-- What comes before the first item that does not count. -/
theorem takeWhile_append_eq {α : Type} {p : α → Bool} {xs ys : List α} (hxs : ∀ x ∈ xs, p x = true)
    (hys : ∀ y ∈ ys.head?, p y = false) : (xs ++ ys).takeWhile p = xs := by
  have hnone : ys.takeWhile p = [] := by
    cases ys with
    | nil => rfl
    | cons y ys => simp [hys y rfl]
  rw [List.takeWhile_append_of_pos hxs, hnone, List.append_nil]

theorem bracedCodePointLength_eq {digits : List Char} (hne : digits ≠ [])
    (h : ∀ c ∈ digits, Text.isHexDigit c) (rest : List Char) :
    bracedCodePointLength ('{' :: (digits ++ '}' :: rest)) = digits.length + 2 := by
  have hpos : 0 < digits.length := List.length_pos_iff.mpr hne
  have hrun : (digits ++ '}' :: rest).takeWhile Text.isHexDigit = digits :=
    takeWhile_append_eq h (by simp; decide)
  simp [bracedCodePointLength, hrun, hpos]

theorem startsWithHex_append {n : Nat} {digits : List Char} (hlength : digits.length = n)
    (h : ∀ c ∈ digits, Text.isHexDigit c) (rest : List Char) :
    startsWithHex n (digits ++ rest) = true := by
  subst hlength
  simpa [startsWithHex] using h

/-- No digit is a brace. -/
theorem bracedCodePointLength_of_hex {digits : List Char} (hne : digits ≠ [])
    (h : ∀ c ∈ digits, Text.isHexDigit c) (rest : List Char) :
    bracedCodePointLength (digits ++ rest) = 0 := by
  cases digits with
  | nil => exact absurd rfl hne
  | cons d digits =>
    have hbrace : d ≠ '{' := by
      rintro rfl
      exact absurd (h '{' List.mem_cons_self) (by decide)
    simp [bracedCodePointLength, hbrace]

theorem sequenceLength_octal {c : Char} (hc : Text.isOctalDigit c) (cs : List Char) :
    sequenceLength (c :: cs) = (((c :: cs).take 3).takeWhile Text.isOctalDigit).length := by
  unfold sequenceLength
  split
  · contradiction
  · rename_i heq
    cases heq
    exact absurd hc (by decide)
  · rename_i heq
    cases heq
    exact absurd hc (by decide)
  · rename_i heq
    cases heq
    exact absurd hc (by decide)
  · rename_i heq
    cases heq
    rw [if_pos hc]

/-- A sequence is as long as it is taken to be. -/
theorem Sequence.length_eq {s rest : List Char} (h : Sequence s rest) :
    sequenceLength (s ++ rest) = s.length := by
  cases h with
  | @braced digits hne hdigits =>
    have hlength := bracedCodePointLength_eq hne hdigits rest
    simp [sequenceLength, hlength]
  | @four digits hlength hdigits =>
    have hne : digits ≠ [] := List.length_pos_iff.mp (by omega)
    have hbraced := bracedCodePointLength_of_hex hne hdigits rest
    simp [sequenceLength, hbraced, startsWithHex_append hlength hdigits, hlength]
  | two hlength hdigits =>
    simp [sequenceLength, startsWithHex_append hlength hdigits, hlength]
  | octal hne hlength hdigits hend =>
    obtain ⟨c, cs, rfl⟩ := List.exists_cons_of_ne_nil hne
    have hrun : (((c :: cs) ++ rest).take 3).takeWhile Text.isOctalDigit = c :: cs := by
      rw [List.take_append, List.take_of_length_le hlength]
      refine takeWhile_append_eq hdigits fun d hd => ?_
      rw [List.head?_take] at hd
      rcases hend with hthree | hend
      · simp [hthree] at hd
      · split at hd
        · cases hd
        · exact hend d hd
    rw [List.cons_append, sequenceLength_octal (hdigits c List.mem_cons_self), ← List.cons_append,
      hrun]
  | carriageReturn => rfl

theorem hex_of_startsWithHex {n : Nat} {cs : List Char} (h : startsWithHex n cs = true) :
    (cs.take n).length = n ∧ ∀ c ∈ cs.take n, Text.isHexDigit c := by
  simp only [startsWithHex, Bool.and_eq_true, decide_eq_true_eq, List.all_eq_true] at h
  exact ⟨List.length_take_of_le h.1, h.2⟩

/-- What counts as a code point in braces is one. -/
theorem exists_braced {cs : List Char} (h : 0 < bracedCodePointLength cs) :
    ∃ digits rest, digits ≠ [] ∧ (∀ c ∈ digits, Text.isHexDigit c) ∧
      cs = '{' :: (digits ++ '}' :: rest) := by
  unfold bracedCodePointLength at h
  split at h
  case h_2 => cases h
  case h_1 cs =>
    dsimp only at h
    split at h
    case isFalse => cases h
    case isTrue hbraced =>
      simp only [Bool.and_eq_true, decide_eq_true_eq, beq_iff_eq] at hbraced
      obtain ⟨hpos, hbrace⟩ := hbraced
      obtain ⟨rest, hrest⟩ := List.head?_eq_some_iff.mp hbrace
      have hsplit := List.prefix_iff_eq_append.mp (List.takeWhile_prefix Text.isHexDigit (l := cs))
      rw [hrest] at hsplit
      refine ⟨_, rest, List.length_pos_iff.mp hpos, fun c hc => ?_, by rw [hsplit]⟩
      exact List.mem_takeWhile_imp hc

/-- Octal digits start with a run of them. -/
theorem exists_octal {c : Char} (hc : Text.isOctalDigit c) (cs : List Char) :
    ∃ digits rest, Sequence digits rest ∧ c :: cs = digits ++ rest := by
  let first := (c :: cs).take 3
  refine ⟨first.takeWhile Text.isOctalDigit,
    first.dropWhile Text.isOctalDigit ++ (c :: cs).drop 3, .octal ?_ ?_ ?_ ?_, ?_⟩
  · simp [first, hc]
  · exact Nat.le_trans (List.takeWhile_prefix _).length_le (List.length_take_le 3 _)
  · exact fun d hd => List.mem_takeWhile_imp hd
  · -- The run ends at another character, at the third digit or at the end of the text.
    rcases hrest : first.dropWhile Text.isOctalDigit with _ | ⟨d, ds⟩
    · have hall : first.takeWhile Text.isOctalDigit = first := by
        have hsplit := List.takeWhile_append_dropWhile (p := Text.isOctalDigit) (l := first)
        rwa [hrest, List.append_nil] at hsplit
      rw [hall, List.nil_append]
      by_cases hlength : 3 ≤ (c :: cs).length
      · exact .inl (List.length_take_of_le hlength)
      · rw [List.drop_eq_nil_of_le (by omega)]
        exact .inr (by simp)
    · have hd := List.head?_dropWhile_not Text.isOctalDigit first
      rw [hrest] at hd
      exact .inr (by simpa using hd)
  · rw [← List.append_assoc, List.takeWhile_append_dropWhile, List.take_append_drop]

/-- Either a sequence of several characters starts a text, or one character is taken. -/
theorem exists_sequence_or (c : Char) (cs : List Char) :
    (∃ s rest, Sequence s rest ∧ c :: cs = s ++ rest) ∨ sequenceLength (c :: cs) = 1 := by
  by_cases hu : c = 'u'
  · subst hu
    by_cases hbraced : 0 < bracedCodePointLength cs
    · obtain ⟨digits, rest, hne, hdigits, rfl⟩ := exists_braced hbraced
      exact .inl ⟨_, rest, .braced hne hdigits rest, by simp⟩
    by_cases hfour : startsWithHex 4 cs = true
    · obtain ⟨hlength, hdigits⟩ := hex_of_startsWithHex hfour
      exact .inl ⟨_, cs.drop 4, .four hlength hdigits _, by simp⟩
    · exact .inr (by simp [sequenceLength, hbraced, hfour])
  by_cases hx : c = 'x'
  · subst hx
    by_cases htwo : startsWithHex 2 cs = true
    · obtain ⟨hlength, hdigits⟩ := hex_of_startsWithHex htwo
      exact .inl ⟨_, cs.drop 2, .two hlength hdigits _, by simp⟩
    · exact .inr (by simp [sequenceLength, htwo])
  by_cases hoctal : Text.isOctalDigit c = true
  · exact .inl (exists_octal hoctal cs)
  by_cases hreturn : ∃ rest, c :: cs = '\r' :: '\n' :: rest
  · obtain ⟨rest, hreturn⟩ := hreturn
    exact .inl ⟨_, rest, .carriageReturn rest, hreturn⟩
  · right
    unfold sequenceLength
    split <;> simp_all

/-! ## There is one cut -/

theorem Matches.length_eq {s rest : List Char} (h : Matches s rest) :
    sequenceLength (s ++ rest) = s.length := by
  cases h with
  | long h => exact h.length_eq
  | @single c _ h =>
    refine (exists_sequence_or c rest).resolve_left ?_
    rintro ⟨s, rest', hs, heq⟩
    exact h s rest' hs heq

theorem Matches.ne_nil {s rest : List Char} (h : Matches s rest) : s ≠ [] := by
  cases h with
  | long h =>
    cases h with
    | octal hne => exact hne
    | _ => exact List.cons_ne_nil _ _
  | single => exact List.cons_ne_nil _ _

/-- Whatever follows a backslash starts with an escape sequence. -/
theorem matches_cut (c : Char) (cs : List Char) :
    Matches ((c :: cs).take (sequenceLength (c :: cs)))
      ((c :: cs).drop (sequenceLength (c :: cs))) := by
  by_cases h : ∃ s rest, Sequence s rest ∧ c :: cs = s ++ rest
  · obtain ⟨s, rest, hs, heq⟩ := h
    rw [heq, hs.length_eq, List.take_left, List.drop_left]
    exact .long hs
  · rw [(exists_sequence_or c cs).resolve_left h]
    exact .single fun s rest hs heq => h ⟨s, rest, hs, heq⟩

theorem pieces_escape {s rest : List Char} (h : Matches s rest) :
    pieces ('\\' :: (s ++ rest)) = .escape s :: pieces rest := by
  have hne : (s ++ rest).isEmpty = false := by simp [h.ne_nil]
  rw [pieces, h.length_eq]
  simp [hne]

theorem pieces_plain {c : Char} (hc : c ≠ '\\') (cs : List Char) :
    pieces (c :: cs) = .plain c :: pieces cs := by
  rw [pieces]
  simp [hc]

/-- **The cut.** There is exactly one way to cut a text. -/
theorem splits_iff {raw : List Char} {ps : List Piece} : Splits raw ps ↔ ps = pieces raw := by
  constructor
  · intro h
    induction h with
    | nil => rw [pieces]
    | plain hc _ ih => rw [pieces_plain hc, ih]
    | trailing => simp [pieces]
    | escape hs _ ih => rw [pieces_escape hs, ih]
  · rintro rfl
    induction raw using pieces.induct with
    | case1 =>
      rw [pieces]
      exact .nil
    | case2 c cs h ih =>
      simp only [Bool.and_eq_true, decide_eq_true_eq, Bool.not_eq_true', List.isEmpty_eq_false_iff]
        at h
      obtain ⟨rfl, hne⟩ := h
      obtain ⟨d, ds, rfl⟩ := List.exists_cons_of_ne_nil hne
      have hcut := Splits.escape (matches_cut d ds) ih
      rwa [← pieces_escape (matches_cut d ds), List.take_append_drop] at hcut
    | case3 c cs h ih =>
      by_cases hc : c = '\\'
      · have hnil : cs = [] := by simpa [hc] using h
        rw [hc, hnil]
        simpa [pieces] using Splits.trailing
      · rw [pieces_plain hc]
        exact .plain hc ih

/-- The escape sequences of a cut match. -/
theorem Splits.exists_matches {raw : List Char} {ps : List Piece} (h : Splits raw ps)
    {s : List Char} (hs : .escape s ∈ ps) : ∃ rest, Matches s rest := by
  induction h with
  | nil => cases hs
  | plain _ _ ih => exact ih (by simpa using hs)
  | trailing => simp at hs
  | escape hmatches _ ih =>
    rcases List.mem_cons.mp hs with heq | hs
    · cases heq
      exact ⟨_, hmatches⟩
    · exact ih hs

/-! ## What sequences stand for -/

/-- The letters that stand for control characters. -/
def controls : List (Char × Nat) :=
  [('n', 10), ('t', 9), ('r', 13), ('b', 8), ('f', 12), ('v', 11)]

/-- The line breaks, which stand for nothing after a backslash. -/
def lineBreaks : List (List Char) :=
  [['\n'], ['\r'], ['\r', '\n'], [Char.ofNat 0x2028], [Char.ofNat 0x2029]]

/-- What an escape sequence stands for. -/
inductive Means : List Char → List Nat → Prop
  | braced {digits : List Char} {n : Nat} (h : IsNumeral 16 n digits) (hn : n ≤ 0x10FFFF) :
      Means ('u' :: '{' :: (digits ++ ['}'])) [n]
  | hexadecimal {letter : Char} {digits : List Char} {n : Nat}
      (hletter : letter = 'u' ∧ digits.length = 4 ∨ letter = 'x' ∧ digits.length = 2)
      (h : IsNumeral 16 n digits) : Means (letter :: digits) [n]
  | octal {digits : List Char} {n : Nat} (hlength : digits.length ≤ 3) (h : IsNumeral 8 n digits) :
      Means digits [n]
  /-- The digits of other scripts count like octal ones. -/
  | digit {c : Char} {n : Nat} (hc : Text.isDigit c) (hn : Text.radixValue? 8 c = some n) :
      Means [c] [n]
  | control {letter : Char} {n : Nat} (h : (letter, n) ∈ controls) : Means [letter] [n]
  | lineBreak {s : List Char} (h : s ∈ lineBreaks) : Means s []
  | itself {c : Char} (hcontrol : c ∉ controls.map Prod.fst) (hbreak : [c] ∉ lineBreaks)
      (hdigit : Text.isDigit c = false) : Means [c] [c.toNat]

/-- An escape sequence that stands for nothing: a code point in braces beyond the last one, or a
digit without an octal value. -/
inductive Unrepresentable : List Char → Prop
  | beyond {digits : List Char} {n : Nat} (h : IsNumeral 16 n digits) (hn : 0x10FFFF < n) :
      Unrepresentable ('u' :: '{' :: (digits ++ ['}']))
  | notOctal {c : Char} (hc : Text.isDigit c) (h : Text.radixValue? 8 c = none) :
      Unrepresentable [c]

/-- What a piece of a text stands for. Plain characters are copied. -/
inductive Piece.StandsFor : Piece → List Nat → Prop
  | plain (c : Char) : StandsFor (.plain c) [c.toNat]
  | escape {s : List Char} {points : List Nat} (h : Means s points) : StandsFor (.escape s) points

section Meaning

variable {s digits : List Char} {c : Char} {n : Nat}

theorem simpleEscape?_control (h : (c, n) ∈ controls) : simpleEscape? [c] = some [n] := by
  simp only [controls, List.mem_cons, Prod.mk.injEq, List.not_mem_nil, or_false] at h
  rcases h with ⟨rfl, rfl⟩ | ⟨rfl, rfl⟩ | ⟨rfl, rfl⟩ | ⟨rfl, rfl⟩ | ⟨rfl, rfl⟩ | ⟨rfl, rfl⟩ <;> rfl

theorem simpleEscape?_lineBreak (h : s ∈ lineBreaks) : simpleEscape? s = some [] := by
  simp only [lineBreaks, List.mem_cons, List.not_mem_nil, or_false] at h
  rcases h with rfl | rfl | rfl | rfl | rfl <;> rfl

/-- Only letters and line breaks stand for something without digits. -/
theorem simpleEscape?_eq_none (hcontrol : ∀ a ∈ controls, s ≠ [a.1]) (hbreak : s ∉ lineBreaks) :
    simpleEscape? s = none := by
  have hkeys : simpleEscapes.map Prod.fst = controls.map (fun a => [a.1]) ++ lineBreaks := rfl
  rw [simpleEscape?, List.lookup_eq_none_iff]
  intro entry hentry
  have hkey := List.mem_map_of_mem (f := Prod.fst) hentry
  rw [hkeys, List.mem_append, List.mem_map] at hkey
  rw [bne_iff_ne]
  rintro rfl
  rcases hkey with ⟨a, ha, heq⟩ | hkey
  · exact hcontrol a ha heq.symm
  · exact hbreak hkey

theorem hexValue_eq (h : IsNumeral 16 n digits) : hexValue digits = n := by
  obtain ⟨values, hvalues, rfl⟩ := h.spells (by decide)
  rw [hexValue, hvalues.filterMap_eq le_rfl]

theorem hexValue_brace (digits : List Char) : hexValue (digits ++ ['}']) = hexValue digits := by
  have hbrace : Text.radixValue? 16 '}' = none := by decide
  simp [hexValue, hbrace]

theorem meaning_braced (h : IsNumeral 16 n digits) :
    (Piece.escape ('u' :: '{' :: (digits ++ ['}']))).meaning = codePoint n := by
  rw [← hexValue_eq h, ← hexValue_brace]
  rfl

theorem meaning_hexadecimal {letter : Char} (hletter : letter = 'u' ∨ letter = 'x')
    (hlength : 2 ≤ digits.length) (h : IsNumeral 16 n digits) :
    (Piece.escape (letter :: digits)).meaning = codePoint n := by
  match digits, hlength with
  | d :: e :: digits, _ =>
    have hbrace : d ≠ '{' := by
      rintro rfl
      have hhex := (exists_isNumeral_hex_iff.mp ⟨n, h⟩).2 '{' List.mem_cons_self
      exact absurd hhex (by decide)
    rw [← hexValue_eq h]
    rcases hletter with rfl | rfl
    · have hsimple : simpleEscape? ('u' :: d :: e :: digits) = none := rfl
      simp [Piece.meaning, hsimple]
    · rfl

/-- Digits of any script are read as octal ones. -/
theorem meaning_digits (hne : s ≠ []) (h : ∀ c ∈ s, Text.isDigit c) :
    (Piece.escape s).meaning = match s.mapM (Text.radixValue? 8) with
      | some values => codePoint (ofDigits 8 values)
      | none => .error .notOctal := by
  have hdigit {c : Char} (hc : c ∈ s) (hno : Text.isDigit c = false) : False :=
    absurd (h c hc) (by simp [hno])
  have hsimple : simpleEscape? s = none := by
    refine simpleEscape?_eq_none ?_ ?_
    · have hletters : ∀ a ∈ controls, Text.isDigit a.1 = false := by decide
      rintro a ha rfl
      exact hdigit List.mem_cons_self (hletters a ha)
    · intro hs
      have hbreaks : ∀ s ∈ lineBreaks, s.all Text.isDigit = false := by decide
      exact absurd (List.all_eq_true.mpr h) (by simp [hbreaks s hs])
  simp only [Piece.meaning, hsimple]
  split
  case h_1 => exact (hdigit List.mem_cons_self (by decide)).elim
  case h_2 => exact (hdigit List.mem_cons_self (by decide)).elim
  case h_3 => exact (hdigit List.mem_cons_self (by decide)).elim
  case h_4 =>
    have hall : (!s.isEmpty && s.all Text.isDigit) = true := by simpa [hne] using h
    refine (if_pos hall).trans ?_
    cases s.mapM (Text.radixValue? 8) <;> rfl

theorem meaning_itself (hcontrol : c ∉ controls.map Prod.fst) (hbreak : [c] ∉ lineBreaks)
    (hdigit : Text.isDigit c = false) : (Piece.escape [c]).meaning = .ok [c.toNat] := by
  have hsimple : simpleEscape? [c] = none := by
    refine simpleEscape?_eq_none ?_ hbreak
    rintro a ha heq
    cases heq
    exact hcontrol (List.mem_map_of_mem ha)
  simp [Piece.meaning, hsimple, hdigit]

theorem codePoint_eq (h : n ≤ 0x10FFFF) : codePoint n = .ok [n] :=
  if_pos h

end Meaning

/-- The value of octal digits, three at most, is a code point. -/
theorem meaning_octal {digits : List Char} {n : Nat} (hlength : digits.length ≤ 3)
    (h : IsNumeral 8 n digits) : (Piece.escape digits).meaning = .ok [n] := by
  have hbound : n < 8 ^ 3 :=
    Nat.lt_of_lt_of_le (h.lt_pow (by decide)) (Nat.pow_le_pow_right (by decide) hlength)
  obtain ⟨values, hvalues, rfl⟩ := h.spells (by decide)
  have hdigit : ∀ c ∈ digits, Text.isDigit c := fun c hc =>
    isDigit_of_isOctalDigit ((exists_isNumeral_octal_iff.mp ⟨_, h⟩).2 c hc)
  rw [meaning_digits h.ne_nil hdigit, hvalues.mapM_eq (by decide)]
  exact codePoint_eq (by omega)

theorem meaning_of_means {s : List Char} {points : List Nat} (h : Means s points) :
    (Piece.escape s).meaning = .ok points := by
  cases h with
  | braced h hn => rw [meaning_braced h, codePoint_eq hn]
  | @hexadecimal letter digits n hletter h =>
    have hbound := h.lt_pow (by decide)
    rcases hletter with ⟨rfl, hlength⟩ | ⟨rfl, hlength⟩
    · rw [hlength] at hbound
      rw [meaning_hexadecimal (.inl rfl) (by omega) h, codePoint_eq (by omega)]
    · rw [hlength] at hbound
      rw [meaning_hexadecimal (.inr rfl) (by omega) h, codePoint_eq (by omega)]
  | octal hlength h => exact meaning_octal hlength h
  | @digit c n hc hn =>
    have hbound := radixValue?_lt hn
    rw [meaning_digits (List.cons_ne_nil _ _) (by simpa using hc)]
    simp [hn, ofDigits, codePoint_eq (n := n) (by omega)]
  | control h => simp only [Piece.meaning, simpleEscape?_control h]
  | lineBreak h => simp only [Piece.meaning, simpleEscape?_lineBreak h]
  | itself hcontrol hbreak hdigit => exact meaning_itself hcontrol hbreak hdigit

theorem meaning_of_unrepresentable {s : List Char} (h : Unrepresentable s) :
    ∃ e, (Piece.escape s).meaning = .error e := by
  cases h with
  | @beyond digits n h hn =>
    rw [meaning_braced h, codePoint, if_neg (by omega)]
    split <;> exact ⟨_, rfl⟩
  | @notOctal c hc h =>
    rw [meaning_digits (List.cons_ne_nil _ _) (by simpa using hc)]
    exact ⟨.notOctal, by simp [h]⟩

/-- An escape sequence in a text stands for something, or for nothing. -/
theorem Matches.means_or {s rest : List Char} (h : Matches s rest) :
    (∃ points, Means s points) ∨ Unrepresentable s := by
  cases h with
  | long h =>
    cases h with
    | braced hne hdigits =>
      obtain ⟨n, hn⟩ := exists_isNumeral_hex_iff.mpr ⟨hne, hdigits⟩
      by_cases hle : n ≤ 0x10FFFF
      · exact .inl ⟨_, .braced hn hle⟩
      · exact .inr (.beyond hn (by omega))
    | @four digits hlength hdigits =>
      have hne : digits ≠ [] := List.length_pos_iff.mp (by omega)
      obtain ⟨n, hn⟩ := exists_isNumeral_hex_iff.mpr ⟨hne, hdigits⟩
      exact .inl ⟨_, .hexadecimal (.inl ⟨rfl, hlength⟩) hn⟩
    | @two digits hlength hdigits =>
      have hne : digits ≠ [] := List.length_pos_iff.mp (by omega)
      obtain ⟨n, hn⟩ := exists_isNumeral_hex_iff.mpr ⟨hne, hdigits⟩
      exact .inl ⟨_, .hexadecimal (.inr ⟨rfl, hlength⟩) hn⟩
    | octal hne hlength hdigits =>
      obtain ⟨n, hn⟩ := exists_isNumeral_octal_iff.mpr ⟨hne, hdigits⟩
      exact .inl ⟨_, .octal hlength hn⟩
    | carriageReturn => exact .inl ⟨_, .lineBreak (by decide)⟩
  | @single c =>
    by_cases hdigit : Text.isDigit c
    · cases hvalue : Text.radixValue? 8 c with
      | some n => exact .inl ⟨_, .digit hdigit hvalue⟩
      | none => exact .inr (.notOctal hdigit hvalue)
    by_cases hcontrol : c ∈ controls.map Prod.fst
    · obtain ⟨⟨_, n⟩, hmem, rfl⟩ := List.mem_map.mp hcontrol
      exact .inl ⟨_, .control hmem⟩
    by_cases hbreak : [c] ∈ lineBreaks
    · exact .inl ⟨_, .lineBreak hbreak⟩
    · exact .inl ⟨_, .itself hcontrol hbreak (by simpa using hdigit)⟩

/-! ## The value of a text -/

theorem Piece.StandsFor.meaning_eq {p : Piece} {points : List Nat} (h : p.StandsFor points) :
    p.meaning = .ok points := by
  cases h with
  | plain => rfl
  | escape h => exact meaning_of_means h

/-- A piece of a cut stands for something, or it is a sequence that stands for nothing. -/
theorem standsFor_or {raw : List Char} {p : Piece} (hp : p ∈ pieces raw) :
    (∃ points, p.StandsFor points) ∨ ∃ s, p = .escape s ∧ Unrepresentable s := by
  cases p with
  | plain c => exact .inl ⟨_, .plain c⟩
  | escape s =>
    obtain ⟨rest, hmatches⟩ := (splits_iff.mpr rfl).exists_matches hp
    rcases hmatches.means_or with ⟨points, h⟩ | h
    · exact .inl ⟨points, .escape h⟩
    · exact .inr ⟨s, rfl, h⟩

theorem meaning_eq_ok_iff {raw : List Char} {p : Piece} (hp : p ∈ pieces raw) {points : List Nat} :
    p.meaning = .ok points ↔ p.StandsFor points := by
  refine ⟨fun h => ?_, Piece.StandsFor.meaning_eq⟩
  rcases standsFor_or hp with ⟨points', h'⟩ | ⟨s, rfl, hs⟩
  · have heq := h'.meaning_eq
    rw [h] at heq
    cases heq
    exact h'
  · obtain ⟨e, he⟩ := meaning_of_unrepresentable hs
    rw [h] at he
    cases he

theorem meaning_fails_iff {raw : List Char} {p : Piece} (hp : p ∈ pieces raw) :
    (∃ e, p.meaning = .error e) ↔ ∃ s, p = .escape s ∧ Unrepresentable s := by
  constructor
  · rintro ⟨e, he⟩
    refine (standsFor_or hp).resolve_left ?_
    rintro ⟨points, h⟩
    rw [h.meaning_eq] at he
    cases he
  · rintro ⟨s, rfl, hs⟩
    exact meaning_of_unrepresentable hs

theorem meanings_eq (ps : List Piece) : meanings ps = List.flatten <$> ps.mapM Piece.meaning := by
  induction ps with
  | nil => rfl
  | cons p ps ih =>
    rw [meanings, ih, List.mapM_cons]
    cases p.meaning with
    | error e => rfl
    | ok part => cases ps.mapM Piece.meaning <;> rfl

/-- The meanings of pieces are put together. -/
theorem meanings_eq_ok_iff {ps : List Piece} {points : List Nat} :
    meanings ps = .ok points ↔
      ∃ parts, List.Forall₂ (fun p part => p.meaning = .ok part) ps parts ∧
        points = parts.flatten := by
  simp only [meanings_eq, ← mapM_eq_ok_iff]
  cases ps.mapM Piece.meaning <;> simp [Functor.map, Except.map, eq_comm]

/-- One piece without a meaning is enough for a text to have none. -/
theorem meanings_fails_iff {ps : List Piece} :
    (∃ e, meanings ps = .error e) ↔ ∃ p ∈ ps, ∃ e, p.meaning = .error e := by
  induction ps with
  | nil => simp [meanings]
  | cons p ps ih =>
    rw [List.exists_mem_cons_iff, ← ih, meanings]
    cases p.meaning with
    | error e => exact iff_of_true ⟨e, rfl⟩ (.inl ⟨e, rfl⟩)
    | ok part =>
      cases meanings ps with
      | error e => exact iff_of_true ⟨e, rfl⟩ (.inr ⟨e, rfl⟩)
      | ok rest => simp [bind, Except.bind, pure, Except.pure]

/-- The value of a text is what its pieces stand for, one after the other. -/
theorem cook_eq_ok_iff {raw : List Char} {points : List Nat} :
    cook raw = .ok points ↔
      ∃ parts, List.Forall₂ Piece.StandsFor (pieces raw) parts ∧ points = parts.flatten := by
  have hpieces (parts : List (List Nat)) :
      List.Forall₂ (fun p part => p.meaning = .ok part) (pieces raw) parts ↔
        List.Forall₂ Piece.StandsFor (pieces raw) parts := by
    simp only [List.forall₂_iff_zip]
    refine and_congr_right fun _ => ?_
    constructor
    · intro h p part hmem
      exact (meaning_eq_ok_iff (List.of_mem_zip hmem).1).mp (h hmem)
    · intro h p part hmem
      exact (h hmem).meaning_eq
  rw [cook, meanings_eq_ok_iff]
  simp only [hpieces]

/-- **The value of a text.** A text is cut in one way only. It has no value exactly if one of its
escape sequences stands for nothing; otherwise its value is what its pieces stand for, one after
the other. -/
theorem cook_fails_iff (raw : List Char) :
    (∀ ps, Splits raw ps ↔ ps = pieces raw) ∧
      ((∃ e, cook raw = .error e) ↔ ∃ s, .escape s ∈ pieces raw ∧ Unrepresentable s) ∧
      ∀ points, cook raw = .ok points ↔
        ∃ parts, List.Forall₂ Piece.StandsFor (pieces raw) parts ∧ points = parts.flatten := by
  refine ⟨fun ps => splits_iff, ?_, fun points => cook_eq_ok_iff⟩
  rw [cook, meanings_fails_iff]
  constructor
  · rintro ⟨p, hp, hfails⟩
    obtain ⟨s, rfl, hs⟩ := (meaning_fails_iff hp).mp hfails
    exact ⟨s, hp, hs⟩
  · rintro ⟨s, hs, hunrepresentable⟩
    exact ⟨_, hs, (meaning_fails_iff hs).mpr ⟨s, rfl, hunrepresentable⟩⟩

-- A backslash that belongs to an escape sequence starts none.
example : cook ['\\', '\\', '8'] = .ok [92, 56] := by cbv

example : cook ['\\', '\\', '\\', '8'] = .error .notOctal := by cbv

end FlowLint.Script
