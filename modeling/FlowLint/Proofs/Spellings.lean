import FlowLint.Proofs.Escapes

/-!
# Spellings of characters

A character can be written in a quoted text in several ways, and line breaks after a backslash may
stand anywhere between the characters. Whatever is chosen, the text has the value that was meant.

* `Spelling`: the ways to write one character.
* `Spelling.exists_piece`: a spelling is one piece of the cut, whatever follows it.
* `Escaping`: a way to write a sequence of characters.
* `cook_of_escaping`: the value of the text is that sequence.
-/

namespace FlowLint.Script

open Reading

/-- A way to write the character of a code point. -/
inductive Spelling : Nat → List Char → Prop
  | plain {c : Char} (hc : c ≠ '\\') : Spelling c.toNat [c]
  | two {n : Nat} {digits : List Char} (hlength : digits.length = 2) (h : IsNumeral 16 n digits) :
      Spelling n ('\\' :: 'x' :: digits)
  | four {n : Nat} {digits : List Char} (hlength : digits.length = 4) (h : IsNumeral 16 n digits) :
      Spelling n ('\\' :: 'u' :: digits)
  /-- The digits may have zeros in front. -/
  | braced {n : Nat} {digits : List Char} (h : IsNumeral 16 n digits) (hn : n ≤ 0x10FFFF) :
      Spelling n ('\\' :: 'u' :: '{' :: (digits ++ ['}']))
  | octal {n : Nat} {digits : List Char} (hlength : digits.length = 3) (h : IsNumeral 8 n digits) :
      Spelling n ('\\' :: digits)
  | control {letter : Char} {n : Nat} (h : (letter, n) ∈ controls) : Spelling n ['\\', letter]
  /-- Any other character stands for itself, unless it may start a longer escape sequence. -/
  | itself {c : Char} (hcontrol : c ∉ controls.map Prod.fst) (hu : c ≠ 'u') (hx : c ≠ 'x')
      (hdigit : Text.isDigit c = false) (hbreak : [c] ∉ lineBreaks) : Spelling c.toNat ['\\', c]

/-- The line breaks that continue a text on the next line. A carriage return alone is not among
them, because it would take a line feed after it along. -/
def continuations : List (List Char) :=
  [['\n'], ['\r', '\n'], [Char.ofNat 0x2028], [Char.ofNat 0x2029]]

/-- A way to write a sequence of characters, with continued lines. -/
inductive Escaping : List Nat → List Char → Prop
  | nil : Escaping [] []
  | spell {n : Nat} {s : List Char} {points : List Nat} {raw : List Char} (hs : Spelling n s)
      (h : Escaping points raw) : Escaping (n :: points) (s ++ raw)
  | continued {s : List Char} {points : List Nat} {raw : List Char} (hs : s ∈ continuations)
      (h : Escaping points raw) : Escaping points ('\\' :: (s ++ raw))

section Cut

variable {n : Nat} {c : Char}

/-- A character that no longer sequence starts with is one on its own. -/
theorem matches_single (hu : c ≠ 'u') (hx : c ≠ 'x') (hoctal : Text.isOctalDigit c = false)
    (hreturn : c ≠ '\r') (rest : List Char) : Matches [c] rest := by
  refine .single fun s rest' hs heq => ?_
  cases hs with
  | braced => exact hu (List.cons.inj heq).1
  | four => exact hu (List.cons.inj heq).1
  | two => exact hx (List.cons.inj heq).1
  | carriageReturn => exact hreturn (List.cons.inj heq).1
  | octal hne _ hdigits =>
    obtain ⟨d, ds, rfl⟩ := List.exists_cons_of_ne_nil hne
    obtain rfl : c = d := (List.cons.inj heq).1
    simp [hdigits c List.mem_cons_self] at hoctal

/-- A spelling is one piece, whatever follows it. -/
theorem Spelling.exists_piece {s : List Char} (hs : Spelling n s) :
    ∃ p : Piece, p.StandsFor [n] ∧ ∀ raw, pieces (s ++ raw) = p :: pieces raw := by
  cases hs with
  | @plain c hc => exact ⟨.plain c, .plain c, fun raw => pieces_plain hc raw⟩
  | two hlength h =>
    have hdigits := (exists_isNumeral_hex_iff.mp ⟨n, h⟩).2
    exact ⟨_, .escape (.hexadecimal (.inr ⟨rfl, hlength⟩) h),
      fun raw => pieces_escape (.long (.two hlength hdigits raw))⟩
  | four hlength h =>
    have hdigits := (exists_isNumeral_hex_iff.mp ⟨n, h⟩).2
    exact ⟨_, .escape (.hexadecimal (.inl ⟨rfl, hlength⟩) h),
      fun raw => pieces_escape (.long (.four hlength hdigits raw))⟩
  | braced h hn =>
    have hdigits := (exists_isNumeral_hex_iff.mp ⟨n, h⟩).2
    exact ⟨_, .escape (.braced h hn),
      fun raw => pieces_escape (.long (.braced h.ne_nil hdigits raw))⟩
  | octal hlength h =>
    have hdigits := (exists_isNumeral_octal_iff.mp ⟨n, h⟩).2
    have hle := Nat.le_of_eq hlength
    exact ⟨_, .escape (.octal hle h),
      fun raw => pieces_escape (.long (.octal h.ne_nil hle hdigits (.inl hlength)))⟩
  | @control letter n h =>
    have hletters : ∀ a ∈ controls, a.1 ≠ 'u' ∧ a.1 ≠ 'x' ∧
        Text.isOctalDigit a.1 = false ∧ a.1 ≠ '\r' := by
      decide
    obtain ⟨hu, hx, hoctal, hreturn⟩ := hletters _ h
    exact ⟨_, .escape (.control h),
      fun raw => pieces_escape (matches_single hu hx hoctal hreturn raw)⟩
  | @itself c hcontrol hu hx hdigit hbreak =>
    have hreturn : c ≠ '\r' := by
      rintro rfl
      exact hbreak (by decide)
    have hoctal : Text.isOctalDigit c = false := by
      by_contra hoctal
      simp [isDigit_of_isOctalDigit (by simpa using hoctal)] at hdigit
    exact ⟨_, .escape (.itself hcontrol hbreak hdigit),
      fun raw => pieces_escape (matches_single hu hx hoctal hreturn raw)⟩

/-- A line break after a backslash is one piece that stands for nothing. -/
theorem pieces_continuation {s : List Char} (hs : s ∈ continuations) (raw : List Char) :
    pieces ('\\' :: (s ++ raw)) = .escape s :: pieces raw := by
  refine pieces_escape ?_
  simp only [continuations, List.mem_cons, List.not_mem_nil, or_false] at hs
  rcases hs with rfl | rfl | rfl | rfl
  · exact matches_single (by decide) (by decide) (by decide) (by decide) raw
  · exact .long (.carriageReturn raw)
  · exact matches_single (by decide) (by decide) (by decide) (by decide) raw
  · exact matches_single (by decide) (by decide) (by decide) (by decide) raw

end Cut

/-- **Spellings.** A text that writes a sequence of characters, each in any of its spellings and
with any continued lines, has that sequence as its value. -/
theorem cook_of_escaping {points : List Nat} {raw : List Char} (h : Escaping points raw) :
    cook raw = .ok points := by
  rw [cook_eq_ok_iff]
  induction h with
  | nil =>
    rw [pieces]
    exact ⟨[], .nil, rfl⟩
  | spell hs _ ih =>
    obtain ⟨parts, hparts, rfl⟩ := ih
    obtain ⟨p, hp, hcut⟩ := hs.exists_piece
    rw [hcut]
    exact ⟨_, .cons hp hparts, rfl⟩
  | @continued s _ raw hs _ ih =>
    obtain ⟨parts, hparts, rfl⟩ := ih
    have hbreaks : ∀ s ∈ continuations, s ∈ lineBreaks := by decide
    rw [pieces_continuation hs]
    exact ⟨_, .cons (.escape (.lineBreak (hbreaks s hs))) hparts, rfl⟩

/-- Neighbours that look like further digits, or like the rest of a line break. -/
theorem cook_of_escaping_neighbours :
    Escaping [0x4A, 0x42, 0x43, 0x44, 0x37, 10, 0xE9]
        ['\\', 'x', '4', 'A', 'B', '\\', 'u', '{', '0', '4', '3', '}', '\\', '1', '0', '4', '7',
          '\\', '\r', '\n', '\n', '\\', 'é'] ∧
      cook ['\\', 'x', '4', 'A', 'B', '\\', 'u', '{', '0', '4', '3', '}', '\\', '1', '0', '4', '7',
          '\\', '\r', '\n', '\n', '\\', 'é'] = .ok [0x4A, 0x42, 0x43, 0x44, 0x37, 10, 0xE9] := by
  have hJ : Spelling 0x4A ['\\', 'x', '4', 'A'] := .two rfl ⟨0, by decide⟩
  have hB : Spelling 0x42 ['B'] := .plain (c := 'B') (by decide)
  have hC : Spelling 0x43 ['\\', 'u', '{', '0', '4', '3', '}'] :=
    @Spelling.braced 0x43 ['0', '4', '3'] ⟨1, by decide⟩ (by decide)
  have hD : Spelling 0x44 ['\\', '1', '0', '4'] := .octal rfl ⟨0, by decide⟩
  have hseven : Spelling 0x37 ['7'] := .plain (c := '7') (by decide)
  have hbreak : ['\r', '\n'] ∈ continuations := by decide
  have hfeed : Spelling 10 ['\n'] := .plain (c := '\n') (by decide)
  have hlast : Spelling 0xE9 ['\\', 'é'] :=
    .itself (c := 'é') (by decide) (by decide) (by decide) (by decide) (by decide)
  have h := Escaping.spell hJ <| .spell hB <| .spell hC <| .spell hD <| .spell hseven <|
    .continued hbreak <| .spell hfeed <| .spell hlast .nil
  exact ⟨h, cook_of_escaping h⟩

end FlowLint.Script
