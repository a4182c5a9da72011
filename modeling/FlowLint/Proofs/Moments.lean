import FlowLint.Proofs.Calendar

/-!
# Moments and timestamps

A moment is a day of the calendar and a time of that day in UTC, to the microsecond. Its text
leaves the fraction of a second away where that is zero, so that texts have two lengths. They are
in the order of the moments nevertheless: all fields in front of the fraction have leading zeros,
and the sign of the zone, which follows a text without a fraction, comes before the point that
starts one.

* `Moment.text_lt_iff`: the texts of moments are in the order of the moments.
* `Moment.instant_text`: a moment is read from its text.
* `Moment.exists_daysBefore?`: going back a number of days takes that number of days off.
-/

namespace FlowLint

open Day (padded)

/-- A day and a time of it in UTC. -/
structure Moment where
  date : Day
  inCalendar : date.InCalendar
  hour : Fin 24
  minute : Fin 60
  second : Fin 60
  microsecond : Fin 1000000

/-- The microseconds of a day. -/
def dayLength : Int := 86400000000

/-- The microseconds of a day that went by until a time of it. -/
def clock (hour minute second microsecond : Nat) : Int :=
  hour * 3600000000 + (minute * 60000000 + (second * 1000000 + microsecond))

/-- The microseconds from the start of the calendar to the time that a text stands for. -/
def Timestamp.instant (stamp : String) : Int :=
  let chars := stamp.toList
  let field (position width : Nat) := Day.number ((chars.drop position).take width)
  (Day.ofText chars).index * dayLength +
    clock (field 11 2) (field 14 2) (field 17 2) (if chars[19]? = some '.' then field 20 6 else 0)

namespace Moment

/-- The end of a text: the fraction of a second, if there is one, and the zone. -/
def ending (microsecond : Nat) : List Char :=
  (if microsecond = 0 then [] else '.' :: padded 6 microsecond) ++ ['+', '0', '0', ':', '0', '0']

/-- What a text has in front of the fraction of a second. -/
def start (m : Moment) : List Char :=
  m.date.text ++
    'T' :: (padded 2 m.hour ++ ':' :: (padded 2 m.minute ++ ':' :: padded 2 m.second))

/-- The text of a moment. -/
def text (m : Moment) : String :=
  String.ofList (m.start ++ ending m.microsecond)

/-- The microseconds from the start of the calendar to a moment. -/
def instant (m : Moment) : Int :=
  m.date.index * dayLength + clock m.hour m.minute m.second m.microsecond

variable {m m' : Moment}

/-! ## Order -/

theorem ending_of_pos {a : Nat} (h : 0 < a) :
    ending a = '.' :: (padded 6 a ++ ['+', '0', '0', ':', '0', '0']) := by
  rw [ending, if_neg h.ne']
  rfl

/-- A text without a fraction of a second comes before one that has a fraction. -/
theorem ending_zero_lt {a : Nat} (h : 0 < a) : ending 0 < ending a := by
  rw [ending_of_pos h]
  exact List.cons_lt_cons_iff.mpr (.inl (by decide))

/-- The texts of fractions of a second are in the order of these, also where one is left away. -/
theorem sameOrder_ending {a b : Nat} (ha : a < 10 ^ 6) (hb : b < 10 ^ 6) :
    SameOrder (ending a) (ending b) a b := by
  rcases Nat.eq_zero_or_pos a with rfl | hapos <;> rcases Nat.eq_zero_or_pos b with rfl | hbpos
  · exact .refl _ _
  · exact .of_lt_of_lt (ending_zero_lt hbpos) (by omega)
  · exact (SameOrder.of_lt_of_lt (ending_zero_lt hapos) (by omega)).symm
  · have hlength : (padded 6 a).length = (padded 6 b).length := by
      rw [Day.length_padded (by decide) ha, Day.length_padded (by decide) hb]
    have hfraction := (Day.sameOrder_padded (by decide) ha hb).append hlength
      (.refl ['+', '0', '0', ':', '0', '0'] 0) (k := 1) (by decide) (by decide)
    rw [ending_of_pos hapos, ending_of_pos hbpos]
    simpa using hfraction.cons '.'

theorem clock_bounds (m : Moment) :
    0 ≤ clock m.hour m.minute m.second m.microsecond ∧
      clock m.hour m.minute m.second m.microsecond < dayLength := by
  simp only [clock, dayLength]
  omega

theorem length_two {n : Nat} (h : n < 60) : (padded 2 n).length = 2 :=
  Day.length_padded (by decide) (by omega)

/-- The texts of moments are in the order of the moments. -/
theorem sameOrder_text (m m' : Moment) :
    SameOrder m.text.toList m'.text.toList m.instant m'.instant := by
  have htwo (n n' : Nat) (h : n < 60) (h' : n' < 60) :
      SameOrder (padded 2 n) (padded 2 n') n n' ∧ (padded 2 n).length = (padded 2 n').length := by
    refine ⟨Day.sameOrder_padded (by decide) (by omega) (by omega), ?_⟩
    rw [length_two h, length_two h']
  obtain ⟨hhour, hlhour⟩ := htwo m.hour m'.hour (by omega) (by omega)
  obtain ⟨hminute, hlminute⟩ := htwo _ _ m.minute.isLt m'.minute.isLt
  obtain ⟨hsecond, hlsecond⟩ := htwo _ _ m.second.isLt m'.second.isLt
  have hldate : m.date.text.length = m'.date.text.length := by
    rw [m.inCalendar.length_text, m'.inCalendar.length_text]
  have hseconds := hsecond.append hlsecond
    (sameOrder_ending m.microsecond.isLt m'.microsecond.isLt) (k := 1000000) (by omega) (by omega)
  have hminutes := hminute.append hlminute (hseconds.cons ':') (k := 60000000) (by omega) (by omega)
  have hclock := hhour.append hlhour (hminutes.cons ':') (k := 3600000000) (by omega) (by omega)
  have hdate := (m.inCalendar.sameOrder_text m'.inCalendar).append hldate (hclock.cons 'T')
    m.clock_bounds m'.clock_bounds
  simpa [text, start, instant, clock] using hdate

/-- **Order.** The text of an earlier moment comes first. -/
theorem text_lt_iff : m.text < m'.text ↔ m.instant < m'.instant :=
  String.lt_iff.trans (sameOrder_text m m').lt_iff

/-! ## Reading -/

/-- The text of a moment, field by field. -/
theorem toList_text (m : Moment) : m.text.toList = m.date.text ++ 'T' ::
    (padded 2 m.hour ++ ':' :: (padded 2 m.minute ++ ':' ::
      (padded 2 m.second ++ ending m.microsecond))) := by
  simp [text, start]

theorem length_start (m : Moment) : m.start.length = 19 := by
  have hhour : (padded 2 m.hour).length = 2 := length_two (by omega)
  simp [start, m.inCalendar.length_text, hhour, length_two]

/-- The date of a moment is read from its text. -/
theorem ofText_text (m : Moment) : Day.ofText m.text.toList = m.date := by
  rw [toList_text]
  exact m.inCalendar.ofText_text _

/-- A field of two digits is read from where it is in the text of a moment. -/
theorem number_two {m : Moment} (before after : List Char) {position n : Nat} (h : n < 60)
    (hsplit : m.text.toList = before ++ (padded 2 n ++ after))
    (hposition : before.length = position) :
    Day.number ((m.text.toList.drop position).take 2) = n := by
  rw [hsplit]
  exact Day.number_field _ _ hposition (by decide) (by omega)

/-- The fraction of a second is read from the text of a moment, or zero where it has none. -/
theorem number_fraction (m : Moment) :
    (if m.text.toList[19]? = some '.' then Day.number ((m.text.toList.drop 20).take 6) else 0) =
      (m.microsecond : Nat) := by
  have hmark : m.text.toList[19]? = (ending m.microsecond)[0]? := by
    rw [text, String.toList_ofList, List.getElem?_append_right m.length_start.le, m.length_start]
  rw [hmark]
  rcases Nat.eq_zero_or_pos m.microsecond with hzero | hpos
  · rw [hzero]
    rfl
  · have hsplit : m.text.toList =
        (m.start ++ ['.']) ++ (padded 6 m.microsecond ++ ['+', '0', '0', ':', '0', '0']) := by
      simp [text, ending_of_pos hpos]
    rw [ending_of_pos hpos, List.getElem?_cons_zero, if_pos rfl, hsplit]
    exact Day.number_field _ _ (by simp [length_start]) (by decide) m.microsecond.isLt

/-- A moment is read from its text. -/
theorem instant_text (m : Moment) : Timestamp.instant m.text = m.instant := by
  have hldate := m.inCalendar.length_text
  have hlhour : (padded 2 m.hour).length = 2 := length_two (by omega)
  have hhour : Day.number ((m.text.toList.drop 11).take 2) = m.hour :=
    number_two (m.date.text ++ ['T'])
      (':' :: (padded 2 m.minute ++ ':' :: (padded 2 m.second ++ ending m.microsecond)))
      (by omega) (by simp [toList_text]) (by simp [hldate])
  have hminute : Day.number ((m.text.toList.drop 14).take 2) = m.minute :=
    number_two (m.date.text ++ 'T' :: (padded 2 m.hour ++ [':']))
      (':' :: (padded 2 m.second ++ ending m.microsecond))
      m.minute.isLt (by simp [toList_text]) (by simp [hldate, hlhour])
  have hsecond : Day.number ((m.text.toList.drop 17).take 2) = m.second :=
    number_two (m.date.text ++ 'T' :: (padded 2 m.hour ++ ':' :: (padded 2 m.minute ++ [':'])))
      (ending m.microsecond)
      m.second.isLt (by simp [toList_text]) (by simp [hldate, hlhour, length_two])
  simp only [Timestamp.instant, instant, ofText_text, hhour, hminute, hsecond, number_fraction]

/-! ## Earlier moments -/

/-- The moment a number of days earlier, if the calendar goes back so far. -/
theorem exists_daysBefore? {days : Nat} (h : days * dayLength ≤ m.instant) :
    ∃ earlier : Moment, Timestamp.daysBefore? days m.text = some earlier.text ∧
      earlier.instant = m.instant - days * dayLength := by
  have hclock := m.clock_bounds
  have hdays : (days : Int) ≤ m.date.index := by
    simp only [instant, dayLength] at h hclock
    omega
  obtain ⟨date, hdate, hcalendar, hindex⟩ := m.inCalendar.exists_before? hdays
  refine ⟨{ m with date := date, inCalendar := hcalendar }, ?_, ?_⟩
  · rw [Timestamp.daysBefore?, ofText_text, hdate, toList_text,
      List.drop_left' m.inCalendar.length_text]
    simp [text, start]
  · simp only [instant, hindex, dayLength]
    omega

end Moment

end FlowLint
