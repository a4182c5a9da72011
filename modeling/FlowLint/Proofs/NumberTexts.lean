import FlowLint.Proofs.Conversion
import FlowLint.Proofs.Numerals
import FlowLint.Proofs.Shares
import FlowLint.Rule
import Mathlib.Data.List.TakeWhile

/-!
# Notations of numbers

A natural number can be written in decimal, in a radix that a letter after a zero announces, and
with a zero in front, which makes it octal unless a digit is too large for that. Single underscores
may stand between digits. All of these are read as the same number.

* `Separated`: digits with underscores between them.
* `NumberText`: the notations of a number.
* `number_notations`: each is read as the number, and an `n` after it makes it a big integer. Stored
  in a variable, it is a placeholder exactly if the number is 123.
-/

namespace FlowLint

/-- A natural number of at most 53 bits is a double. -/
theorem Binary64.ofRat_natCast {n : Nat} (h : n < 2 ^ 53) : ofRat n = finite n := by
  by_cases hzero : n = 0
  · subst hzero
    exact ofRat_zero
  · have hvalue : (ofRat n).toRat? = some (n : Rat) :=
      toRat?_ofRat_intCast (n := n) ⟨by omega, by exact_mod_cast h⟩
    cases hx : ofRat n with
    | finite v =>
      rw [hx] at hvalue
      exact congrArg finite (Option.some.inj hvalue)
    | negativeZero =>
      rw [hx] at hvalue
      have hcast : (0 : Rat) = n := Option.some.inj hvalue
      exact absurd (by exact_mod_cast hcast.symm) hzero
    | infinite _ => simp [hx, toRat?] at hvalue
    | nan => simp [hx, toRat?] at hvalue

namespace Reading

/-! ## Decimal digits -/

theorem strip_eq {cs : List Char} (h : ∀ c ∈ cs, isMargin c = false) : strip cs = cs := by
  have hdrop {cs : List Char} (h : ∀ c ∈ cs, isMargin c = false) : cs.dropWhile isMargin = cs := by
    cases cs with
    | nil => rfl
    | cons c cs => simp [h c List.mem_cons_self]
  rw [strip, hdrop h, hdrop (by simpa using h), List.reverse_reverse]

/-- The usual digits of a positive number do not start with a zero. -/
theorem head?_toDigits {n : Nat} (hn : 0 < n) : (Nat.toDigits 10 n).head? ≠ some '0' := by
  induction n using Nat.base_induction 10 (by decide) with
  | single m hm =>
    have hall : ∀ m < 10, 0 < m → m.digitChar ≠ '0' := by decide
    rw [Nat.toDigits_of_lt_base hm]
    simpa using hall m hm hn
  | digit m v hv hm ih =>
    rw [← Nat.toDigits_append_toDigits (by decide) hm hv,
      List.head?_append_of_ne_nil _ Nat.toDigits_ne_nil]
    exact ih hm

section Decimal

variable {digits : List Char} {values : List Nat} (h : Spells 10 digits values) (hne : digits ≠ [])

include h hne

theorem sign_strip : sign (strip digits) = (false, digits) := by
  have hmargin : ∀ c ∈ digits, isMargin c = false := h.forall_mem (by decide)
  have hsign : ∀ c ∈ digits, c ≠ '+' ∧ c ≠ '-' := h.forall_mem (by decide)
  obtain ⟨c, cs, rfl⟩ := List.exists_cons_of_ne_nil hne
  obtain ⟨hplus, hminus⟩ := hsign c List.mem_cons_self
  rw [strip_eq hmargin, sign]
  · exact fun _ heq => hminus (List.cons.inj heq).1
  · exact fun _ heq => hplus (List.cons.inj heq).1

/-- Digits are no word for an infinite or undefined number. -/
theorem special?_eq_none : special? digits = none := by
  have hletter : ∀ c ∈ digits, c.toLower ≠ 'i' ∧ c.toLower ≠ 'n' := h.forall_mem (by decide)
  rw [special?, sign_strip h hne]
  obtain ⟨c, cs, rfl⟩ := List.exists_cons_of_ne_nil hne
  obtain ⟨hi, hn⟩ := hletter c List.mem_cons_self
  simp [String.ext_iff, hi, hn]

theorem decimal?_eq : decimal? digits = some ⟨false, ofDigits 10 values, 0⟩ := by
  have hdecimal : ∀ c ∈ digits, (Text.decimalValue? c).isSome := h.forall_mem (by decide)
  have hrun : digitRun digits = (digits, []) := by
    have hall : digits.takeWhile (fun c => c = '_' || (Text.decimalValue? c).isSome) = digits := by
      rw [List.takeWhile_eq_self_iff]
      intro c hc
      simp [hdecimal c hc]
    simp only [digitRun, hall, List.drop_length]
  have hwhole : optionalDigits digits = some values := by
    simp [optionalDigits, hne, h.digitValues_eq (by decide) hne]
  have hfraction : optionalDigits [] = some [] := rfl
  have hvalues := h.values_ne_nil hne
  rw [decimal?, sign_strip h hne]
  simp [hrun, hwhole, hfraction, hvalues]

end Decimal

/-- A decimal without a fraction that is a double. -/
theorem toBinary64_natCast {n : Nat} (h : n < 2 ^ 53) :
    (⟨false, n, 0⟩ : Decimal).toBinary64 = .finite n := by
  have hlength : (Nat.toDigits 10 n).length ≤ 16 :=
    (Nat.length_toDigits_le_iff (by decide) (by decide)).mpr (by omega)
  by_cases hzero : n = 0
  · subst hzero
    simp [Decimal.toBinary64, Binary64.zero]
  · have hsmall : ¬((Nat.toDigits 10 n).length : Int) < -400 := by omega
    have hlarge : ¬400 < (Nat.toDigits 10 n).length := by omega
    have hone : tenPow 0 = 1 := by decide
    simp [Decimal.toBinary64, hzero, hsmall, hlarge, hone, Binary64.ofRat_natCast h]

end Reading

namespace Script

open Reading

/-! ## Notations -/

/-- Digits with single underscores between some of them. -/
inductive Separated : List Char → List Char → Prop
  | last (c : Char) : Separated [c] [c]
  | next (c : Char) {digits text : List Char} (h : Separated digits text) :
      Separated (c :: digits) (c :: text)
  | underscore (c : Char) {digits text : List Char} (h : Separated digits text) :
      Separated (c :: digits) (c :: '_' :: text)

/-- The letters that announce a radix. -/
def announcements : List (Char × Nat) :=
  [('x', 16), ('X', 16), ('o', 8), ('O', 8), ('b', 2), ('B', 2)]

/-- The texts that a natural number is written with. -/
inductive NumberText : Nat → List Char → Prop
  | decimal {n : Nat} {text : List Char} (htext : Separated (Nat.toDigits 10 n) text) :
      NumberText n text
  /-- The digits may have zeros in front, and letters in either case. -/
  | announced {letter : Char} {radix n : Nat} {digits text : List Char}
      (hletter : (letter, radix) ∈ announcements) (h : IsNumeral radix n digits)
      (htext : Separated digits text) : NumberText n ('0' :: letter :: text)
  | octal {n : Nat} {digits text : List Char} (h : IsNumeral 8 n digits)
      (htext : Separated ('0' :: digits) text) : NumberText n text
  /-- A digit that is too large for an octal one makes the others decimal. -/
  | zeroLed {n : Nat} {digits text : List Char} (h : IsNumeral 10 n digits)
      (hlarge : '8' ∈ digits ∨ '9' ∈ digits) (htext : Separated ('0' :: digits) text) :
      NumberText n text

theorem filter_separated {digits text : List Char} (h : Separated digits text)
    (hdigits : ∀ c ∈ digits, c ≠ '_') : text.filter (· != '_') = digits := by
  induction h with
  | last c => simpa using hdigits
  | next c _ ih =>
    obtain ⟨hc, hrest⟩ := List.forall_mem_cons.mp hdigits
    simp [hc, ih hrest]
  | underscore c _ ih =>
    obtain ⟨hc, hrest⟩ := List.forall_mem_cons.mp hdigits
    simp [hc, ih hrest]

/-- Without its underscores the text of a numeral is the numeral, and it does not end in an `n`. -/
theorem filter_eq {radix n : Nat} {digits text : List Char} (htext : Separated digits text)
    (h : IsNumeral radix n digits) (hradix : 1 < radix) (hle : radix ≤ 16) :
    text.filter (· != '_') = digits ∧ (digits.getLast? == some 'n') = false := by
  have hplain : ∀ c ∈ digits, c ≠ '_' ∧ c ≠ 'n' := h.forall_mem hradix hle (by decide)
  refine ⟨filter_separated htext fun c hc => (hplain c hc).1, ?_⟩
  rw [beq_eq_false_iff_ne]
  intro hlast
  exact (hplain 'n' (List.mem_of_getLast? hlast)).2 rfl

/-! ## Values -/

section Value

variable {n radix : Nat} {digits text : List Char}

/-- Digits after a zero are read as `zeroLed` says. -/
theorem numberValue_zero_cons (h : IsNumeral radix n digits) (hone : 1 < radix) (hle : radix ≤ 10)
    (htext : Separated ('0' :: digits) text) :
    numberValue text = some <$> zeroLed ('0' :: digits) := by
  obtain ⟨hclean, hlast⟩ := filter_eq htext h.zero_cons hone (hle.trans (by decide))
  have hdigit : ∀ c ∈ '0' :: digits, Text.isDigit c = true ∧ announcedRadix? c = none :=
    h.zero_cons.forall_mem hone hle (by decide)
  have hall : ('0' :: digits).all Text.isDigit = true :=
    List.all_eq_true.mpr fun c hc => (hdigit c hc).1
  obtain ⟨d, ds, rfl⟩ := List.exists_cons_of_ne_nil h.ne_nil
  have hnone := (hdigit d (by simp)).2
  simp only [numberValue, hclean, hlast, hnone, hall, if_true]
  rfl

variable (hn : n < 2 ^ 53)

include hn

theorem radixNumber_eq (h : IsNumeral radix n digits) (hradix : 1 < radix) (hle : radix ≤ 16) :
    radixNumber radix digits = .ok (.finite n) := by
  obtain ⟨values, hvalues, rfl⟩ := h.spells hradix
  simp [radixNumber, hvalues.digitValues_eq hle h.ne_nil, doubleOfNat, Binary64.ofRat_natCast hn]

theorem decimalValue_eq (h : IsNumeral 10 n digits) : decimalValue digits = .ok (.finite n) := by
  obtain ⟨values, hvalues, rfl⟩ := h.spells (by decide)
  simp [decimalValue, binary64?, special?_eq_none hvalues h.ne_nil, decimal?_eq hvalues h.ne_nil,
    toBinary64_natCast hn]

theorem numberValue_decimal (htext : Separated (Nat.toDigits 10 n) text) :
    numberValue text = .ok (some (.finite n)) := by
  have hnumeral : IsNumeral 10 n (Nat.toDigits 10 n) := isNumeral_toDigits
  obtain ⟨hclean, hlast⟩ := filter_eq htext hnumeral (by decide) (by decide)
  have hvalue := decimalValue_eq hn hnumeral
  simp only [numberValue, hclean, hlast]
  split
  · contradiction
  split
  · -- Only zero itself starts with a zero.
    rename_i c digits heq
    rcases Nat.eq_zero_or_pos n with rfl | hpos
    · cases heq
    · exact absurd (by rw [heq]; rfl) (head?_toDigits hpos)
  · rw [hvalue]
    rfl

theorem numberValue_announced {letter : Char} (hletter : (letter, radix) ∈ announcements)
    (h : IsNumeral radix n digits) (htext : Separated digits text) :
    numberValue ('0' :: letter :: text) = .ok (some (.finite n)) := by
  have hall : ∀ a ∈ announcements, a.1 ≠ '_' ∧ isMargin a.1 = false ∧
      announcedRadix? a.1 = some a.2 ∧ 1 < a.2 ∧ a.2 ≤ 16 := by
    decide
  obtain ⟨hunderscore, hmargin, hradix, hone, hle⟩ := hall _ hletter
  obtain ⟨hclean, hlast⟩ := filter_eq htext h hone hle
  have hstrip : strip (letter :: digits) = letter :: digits :=
    strip_eq (List.forall_mem_cons.mpr ⟨hmargin, h.forall_mem hone hle (by decide)⟩)
  have hlast' : (('0' :: letter :: digits).getLast? == some 'n') = false := by
    obtain ⟨d, ds, rfl⟩ := List.exists_cons_of_ne_nil h.ne_nil
    rwa [List.getLast?_cons_cons, List.getLast?_cons_cons]
  have hclean' : ('0' :: letter :: text).filter (· != '_') = '0' :: letter :: digits := by
    simp [hunderscore, hclean]
  simp only [numberValue, hclean', hlast', hradix, hstrip, List.tail_cons,
    radixNumber_eq hn h hone hle]
  rfl

theorem numberValue_octal (h : IsNumeral 8 n digits) (htext : Separated ('0' :: digits) text) :
    numberValue text = .ok (some (.finite n)) := by
  have hsmall : ∀ c ∈ '0' :: digits, c ≠ '8' ∧ c ≠ '9' :=
    h.zero_cons.forall_mem (by decide) le_rfl (by decide)
  have hany : (('0' :: digits).any fun c => c = '8' || c = '9') = false := by
    simpa using hsmall
  rw [numberValue_zero_cons h (by decide) (by decide) htext, zeroLed, if_neg (by simp [hany]),
    radixNumber_eq hn h.zero_cons (by decide) (by decide)]
  rfl

theorem numberValue_zeroLed (h : IsNumeral 10 n digits) (hlarge : '8' ∈ digits ∨ '9' ∈ digits)
    (htext : Separated ('0' :: digits) text) : numberValue text = .ok (some (.finite n)) := by
  have hany : ('0' :: digits).any fun c => c = '8' || c = '9' := by
    rcases hlarge with hmem | hmem
    · exact List.any_eq_true.mpr ⟨'8', List.mem_cons_of_mem _ hmem, rfl⟩
    · exact List.any_eq_true.mpr ⟨'9', List.mem_cons_of_mem _ hmem, rfl⟩
  rw [numberValue_zero_cons h (by decide) le_rfl htext, zeroLed, if_pos hany,
    decimalValue_eq hn h.zero_cons]
  rfl

theorem NumberText.numberValue_eq (h : NumberText n text) :
    numberValue text = .ok (some (.finite n)) := by
  cases h with
  | decimal htext => exact numberValue_decimal hn htext
  | announced hletter h htext => exact numberValue_announced hn hletter h htext
  | octal h htext => exact numberValue_octal hn h htext
  | zeroLed h hlarge htext => exact numberValue_zeroLed hn h hlarge htext

end Value

/-! ## Literals -/

/-- An `n` at the end makes a big integer of any text. -/
theorem numberValue_bigInteger (text : List Char) : numberValue (text ++ ['n']) = .ok none := by
  simp [numberValue]

theorem numberLiteral_eq {text : List Char} {x : Binary64} (h : numberValue text = .ok (some x)) :
    numberLiteral (String.ofList text) = .ok (.number (some x)) := by
  have hlast : text.getLast? ≠ some 'n' := by
    intro hlast
    obtain ⟨digits, rfl⟩ := List.getLast?_eq_some_iff.mp hlast
    rw [numberValue_bigInteger] at h
    cases h
  simp [numberLiteral, hlast, h]

theorem numberLiteral_bigInteger (text : List Char) :
    numberLiteral (String.ofList (text ++ ['n'])) = .ok .bigInteger := by
  simp [numberLiteral]

/-- The constructs that store a value in a variable, with the roles of the two. -/
def storing : List (Kind × Role × Role) :=
  [(.variableDeclarator, .name, .value), (.assignment, .left, .right),
    (.augmentedAssignment, .left, .right)]

/-- Wherever a number literal is stored in a variable, the rule on placeholders says this of it. -/
def SaidWhenStored (raw : String) (remarks : SourceRange → List Remark) : Prop :=
  ∀ (l : Layout) (mode : Mode) (atTop : Bool) (kind : Kind) (targetRole valueRole : Role),
    (kind, targetRole, valueRole) ∈ storing →
    ∀ (role literalRole : Role) (span literalSpan : Span) (text : String)
      (parts literalParts : List Concrete) (target : Option Node),
    convertAt l .target targetRole parts = .ok target →
    parts.find? (·.role == valueRole) =
      some (.node .number literalRole literalSpan raw literalParts) →
    ∃ node, convert l mode atTop (.node kind role span text parts) = .ok node ∧
      ∀ profile ancestors,
        Rule.placeholderValue.inspect profile (node, ancestors) = remarks (l.range literalSpan)

/-- What the rule on placeholders says of a stored literal. -/
theorem saidWhenStored {raw : String} {value : Literal} (h : numberLiteral raw = .ok value) :
    SaidWhenStored raw fun range =>
      match placeholder? value with
      | some p => [.finding (.found .placeholderValue (placeholderMessage p) range (some p))]
      | none => [] := by
  intro l mode atTop kind targetRole valueRole hkind role literalRole span literalSpan text parts
    literalParts target htarget hvalue
  have hliteral : convertAt l .value valueRole parts =
      .ok (some (.literal value raw (l.range literalSpan))) := by
    rw [convertAt_eq, hvalue]
    simp only [convert, h]
    rfl
  simp only [storing, List.mem_cons, Prod.mk.injEq, List.not_mem_nil, or_false] at hkind
  rcases hkind with ⟨rfl, rfl, rfl⟩ | ⟨rfl, rfl, rfl⟩ | ⟨rfl, rfl, rfl⟩
  all_goals
    rw [convert, htarget, hliteral]
    exact ⟨_, rfl, fun _ _ => rfl⟩

/-- What a text of a number is to the reader and to the rule on placeholders. -/
structure ReadsAs (text : List Char) (n : Nat) : Prop where
  value : numberValue text = .ok (some (.finite n))
  bigInteger : numberValue (text ++ ['n']) = .ok none
  literal : numberLiteral (String.ofList text) = .ok (.number (some (.finite n)))
  bigLiteral : numberLiteral (String.ofList (text ++ ['n'])) = .ok .bigInteger
  /-- A stored literal is reported exactly if its value is the placeholder. -/
  stored : SaidWhenStored (String.ofList text) fun range =>
    if n = 123 then
      [.finding (.found .placeholderValue "Remove hardcoded test number" range (some .number))]
    else []
  storedBig : SaidWhenStored (String.ofList (text ++ ['n'])) fun _ => []

/-- **Notations of numbers.** A text that writes a number of at most 53 bits is read as that number
in any notation. -/
theorem number_notations {n : Nat} {text : List Char} (hn : n < 2 ^ 53) (h : NumberText n text) :
    ReadsAs text n := by
  have hvalue := h.numberValue_eq hn
  have hliteral := numberLiteral_eq hvalue
  have hbig := numberLiteral_bigInteger text
  have hsaid : ∀ range, (match placeholder? (.number (some (.finite n))) with
      | some p => [Remark.finding (.found .placeholderValue (placeholderMessage p) range (some p))]
      | none => []) = if n = 123 then
        [.finding (.found .placeholderValue "Remove hardcoded test number" range (some .number))]
      else [] := by
    intro range
    by_cases heq : n = 123
    · subst heq
      rfl
    · have hne : (n : Rat) ≠ 123 := by exact_mod_cast heq
      simp [placeholder?, heq, hne]
  refine ⟨hvalue, numberValue_bigInteger text, hliteral, hbig, ?_, saidWhenStored hbig⟩
  rw [← funext hsaid]
  exact saidWhenStored hliteral

theorem number_notations_separated :
    123 < 2 ^ 53 ∧ NumberText 123 ['0', '1', '_', '7', '3'] ∧
      ReadsAs ['0', '1', '_', '7', '3'] 123 := by
  have htext : NumberText 123 ['0', '1', '_', '7', '3'] :=
    @NumberText.octal 123 ['1', '7', '3'] _ ⟨0, by decide⟩
      (.next '0' (.underscore '1' (.next '7' (.last '3'))))
  exact ⟨by decide, htext, number_notations (by decide) htext⟩

end Script
end FlowLint
