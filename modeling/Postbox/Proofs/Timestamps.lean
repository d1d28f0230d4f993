import Postbox.Message
import Postbox.Proofs.Calendar
import Postbox.Proofs.Decimal.Places
import Postbox.Proofs.Text.Cutting
import Postbox.Proofs.Text.Trimming
import Mathlib.Data.Option.Basic

/-! # Timestamps — what a written time denotes

    A service may state a time in writing: a day, its hour, minute and second, perhaps a
    fraction of the second, and by how much the clock is ahead of UTC.  Each such text
    (`Timestamp`) is read field by field: what a reader of one field takes is what was written
    in front, whatever follows.  So the text denotes the seconds that its fields add up to, and
    nothing if its day does not exist (`timestamps_denote`).

    A day alone (`DayText`) is refused by the first notation, since nothing follows the day, and
    taken by the second one as its first moment in UTC. -/

namespace Postbox

open Decimal

/-! ## Texts -/

/-- A day in writing: four digits for the year, two for the month, two for the day. -/
structure DayText where
  year : Fin 10000
  month : Fin 100
  day : Fin 100

namespace DayText

/-- The day meant, which need not exist. -/
def date (t : DayText) : Date := ⟨t.year, t.month, t.day⟩

def chars (t : DayText) : List Char :=
  places 4 t.year ++ '-' :: (places 2 t.month ++ '-' :: places 2 t.day)

def text (t : DayText) : String := String.ofList t.chars

end DayText

/-- An offset in writing: the letter of UTC, or by how much the clock is ahead of it or behind. -/
inductive OffsetText
  | utc (letter : Char) (isZulu : letter = 'Z' ∨ letter = 'z')
  | ahead (hour : Fin 24) (minute : Fin 60)
  | behind (hour : Fin 24) (minute : Fin 60)

namespace OffsetText

/-- The seconds by which the clock is ahead. -/
def seconds : OffsetText → Int
  | utc _ _ => 0
  | ahead hour minute => 3600 * hour + 60 * minute
  | behind hour minute => -(3600 * hour + 60 * minute)

def chars : OffsetText → List Char
  | utc letter _ => [letter]
  | ahead hour minute => '+' :: (places 2 hour ++ ':' :: places 2 minute)
  | behind hour minute => '-' :: (places 2 hour ++ ':' :: places 2 minute)

end OffsetText

/-- A day with a time of day in writing.  No digits of a fraction stand for no fraction. -/
structure Timestamp extends DayText where
  separator : Char
  hour : Fin 24
  minute : Fin 60
  second : Fin 60
  fraction : List Char
  offset : OffsetText
  separates : separator = 'T' ∨ separator = 't' ∨ separator = ' '
  digits : ∀ c ∈ fraction, c.isDigit = true
  short : fraction.length ≤ 9

namespace Timestamp

/-- The fraction of the second in nanoseconds. -/
def nanos (t : Timestamp) : Nat :=
  Nat.ofDigitChars 10 t.fraction 0 * 10 ^ (9 - t.fraction.length)

/-- The instant meant, where the day is the `n`-th one. -/
def instantOn (t : Timestamp) (n : Int) : Instant :=
  ⟨86400 * n + 3600 * t.hour + 60 * t.minute + t.second - t.offset.seconds, t.nanos⟩

def fractionChars (t : Timestamp) : List Char :=
  if t.fraction.isEmpty then [] else '.' :: t.fraction

def timeChars (t : Timestamp) : List Char :=
  places 2 t.hour ++ ':' :: (places 2 t.minute ++ ':' :: (places 2 t.second ++
    (t.fractionChars ++ t.offset.chars)))

def text (t : Timestamp) : String :=
  String.ofList (t.chars ++ t.separator :: t.timeChars)

end Timestamp

/-- The first moment of a day in UTC. -/
def DayText.midnight (t : DayText) : Timestamp where
  toDayText := t
  separator := 'T'
  hour := 0
  minute := 0
  second := 0
  fraction := []
  offset := .utc 'Z' (Or.inl rfl)
  separates := Or.inl rfl
  digits := List.forall_mem_nil _
  short := Nat.zero_le 9

/-- The first moment is written with midnight behind the day. -/
theorem DayText.text_midnight (t : DayText) : t.midnight.text = t.text ++ "T00:00:00Z" := by
  have htime : t.midnight.timeChars
      = places 2 0 ++ ':' :: (places 2 0 ++ ':' :: (places 2 0 ++ ['Z'])) := rfl
  rw [Timestamp.text, htime, String.ofList_append]
  rfl

namespace Instant

/-! ## Fields -/

/-- A field of fixed width is read off the front. -/
theorem exactly_places (width : Nat) {n : Nat} (hwidth : 0 < width) (hn : n < 10 ^ width)
    (rest : List Char) : exactly width (places width n ++ rest) = some (n, rest) := by
  have hlength := length_places width n
  rw [exactly, List.take_left' hlength, List.drop_left' hlength, if_pos hlength,
    nat_places hwidth hn]
  rfl

/-- So is a field of at most its width, up to what is no digit. -/
theorem upTo_places {width n : Nat} (hwidth : 0 < width) (hn : n < 10 ^ width)
    {rest : List Char} (hrest : ∀ c, rest.head? = some c → c.isDigit = false) :
    upTo width (places width n ++ rest) = some (n, rest) := by
  have hlength := length_places width n
  rw [upTo, Text.takeWhile_append_of (isDigit_places width n) hrest,
    List.take_of_length_le (Nat.le_of_eq hlength), nat_places hwidth hn, Option.map_some,
    List.drop_left]

/-- Hour and minute are read off the front. -/
theorem hourMinute_places (hour : Fin 24) (minute : Fin 60) (rest : List Char) :
    hourMinute? (places 2 hour ++ ':' :: (places 2 minute ++ rest))
      = some (hour.val, minute.val, rest) := by
  have hhour := hour.isLt
  have hminute := minute.isLt
  rw [hourMinute?, exactly_places 2 (by decide) (by omega)]
  simp only [Option.bind_eq_bind, Option.bind_some]
  rw [exactly_places 2 (by decide) (by omega)]
  simp only [Option.bind_some, hhour, hminute, decide_true, Bool.and_self, if_true]

/-- An offset is read as the seconds that it says. -/
theorem offset_chars (o : OffsetText) : offset? o.chars = some o.seconds := by
  have hfields (hour : Fin 24) (minute : Fin 60) :
      hourMinute? (places 2 hour ++ ':' :: places 2 minute)
        = some (hour.val, minute.val, []) := by
    have hread := hourMinute_places hour minute []
    rwa [List.append_nil] at hread
  have hseconds (hour : Fin 24) (minute : Fin 60) :
      ((hour.val : Int) * 60 + minute.val) * 60 = 3600 * hour.val + 60 * minute.val := by
    omega
  cases o with
  | utc letter isZulu =>
      rcases isZulu with rfl | rfl
      · rfl
      · rfl
  | ahead hour minute =>
      rw [OffsetText.chars, offset?, hfields]
      · exact congrArg some (hseconds hour minute)
      · exact nofun
      · exact nofun
  | behind hour minute =>
      rw [OffsetText.chars, offset?, hfields]
      · exact congrArg (fun n => some (-n)) (hseconds hour minute)
      · exact nofun
      · exact nofun

/-- A fraction is read as its nanoseconds, up to the offset. -/
theorem fraction_chars (t : Timestamp) {rest : List Char}
    (hrest : ∀ c, rest.head? = some c → c ≠ '.' ∧ c.isDigit = false) :
    fraction? (t.fractionChars ++ rest) = some (t.nanos, rest) := by
  by_cases hnone : t.fraction = []
  · rw [Timestamp.fractionChars, Timestamp.nanos, hnone, List.isEmpty_nil, if_pos rfl,
      List.nil_append]
    unfold fraction?
    split
    · exact absurd rfl (hrest '.' rfl).1
    · rfl
  · have hsome : t.fraction.isEmpty = false := List.isEmpty_eq_false_iff.mpr hnone
    rw [Timestamp.fractionChars, hsome, if_neg Bool.false_ne_true, List.cons_append, fraction?,
      Text.takeWhile_append_of t.digits fun c hc => (hrest c hc).2]
    -- the digits are filled up to nine, so they count nanoseconds
    have hread : nat? ((t.fraction.take 9).rightpad 9 '0') = some t.nanos := by
      rw [List.take_of_length_le t.short, nat_eq_some]
      refine ⟨?_, ?_, ofDigitChars_rightpad.symm⟩
      · rw [List.rightpad]
        exact List.append_ne_nil_of_left_ne_nil hnone _
      · rw [List.rightpad]
        refine List.forall_mem_append.mpr ⟨t.digits, ?_⟩
        intro c hc
        rw [List.eq_of_mem_replicate hc]
        rfl
    rw [hread, hsome, List.drop_left]
    rfl

/-! ## A day with a time -/

/-- An offset begins neither a fraction nor more digits. -/
theorem offset_head (o : OffsetText) (c : Char) (h : o.chars.head? = some c) :
    c ≠ '.' ∧ c.isDigit = false := by
  cases o with
  | utc letter isZulu =>
      obtain rfl := Option.some.inj h
      rcases isZulu with rfl | rfl
      · decide
      · decide
  | ahead hour minute =>
      obtain rfl := Option.some.inj h
      decide
  | behind hour minute =>
      obtain rfl := Option.some.inj h
      decide

/-- The day is separated from the time by a mark that is no digit. -/
theorem separator_read (t : Timestamp) :
    (t.separator == 'T' || t.separator == 't' || t.separator == ' ') = true ∧
      t.separator.isDigit = false := by
  rcases t.separates with h | h | h
  · rw [h]
    decide
  · rw [h]
    decide
  · rw [h]
    decide

/-- **A day with a time is read field by field**, and then the day is looked up. -/
theorem ofRfc3339_text (t : Timestamp) :
    ofRfc3339? t.text
      = (Date.of? t.year t.month t.day).map fun d => t.instantOn d.dayNumber := by
  have hsecond := t.second.isLt
  have hyear := exactly_places 4 (by decide) t.year.isLt
  have hmonth := exactly_places 2 (by decide) t.month.isLt
  have hday := exactly_places 2 (by decide) t.day.isLt
  obtain ⟨hseparator, -⟩ := separator_read t
  have htime := exactly_places 2 (by decide) (Nat.lt_trans hsecond (by decide))
  have hfraction := fraction_chars t (offset_head t.offset)
  -- the 60th second of a minute is a leap second, and no other one is
  have hle : t.second.val ≤ 60 := Nat.le_of_lt hsecond
  have hmin : min t.second.val 59 = t.second.val := by omega
  have hleap : t.second.val ≠ 60 := by omega
  rw [ofRfc3339?, Timestamp.text, String.toList_ofList, DayText.chars, Timestamp.timeChars]
  simp only [List.append_assoc, List.cons_append, Option.bind_eq_bind, Option.bind_some, hyear,
    hmonth, hday, hseparator, guard, if_true, Option.pure_def, hourMinute_places, htime, hle,
    hfraction, offset_chars, hmin, hleap, if_false]
  cases Date.of? t.year t.month t.day with
  | none => rfl
  | some d =>
      rw [Option.bind_some, Option.map_some, Timestamp.instantOn, daySeconds]
      have hsecs : d.dayNumber * 86400 + (t.hour.val * 3600 + t.minute.val * 60 + t.second.val)
          - t.offset.seconds = 86400 * d.dayNumber + 3600 * t.hour.val + 60 * t.minute.val
          + t.second.val - t.offset.seconds := by omega
      rw [hsecs]

/-! ## A day alone -/

/-- A day alone is no day with a time. -/
theorem ofRfc3339_dayText (t : DayText) : ofRfc3339? t.text = none := by
  have hyear := exactly_places 4 (by decide) t.year.isLt
  have hmonth := exactly_places 2 (by decide) t.month.isLt
  have hday := exactly_places 2 (by decide) t.day.isLt []
  rw [List.append_nil] at hday
  rw [ofRfc3339?, DayText.text, String.toList_ofList, DayText.chars]
  simp only [Option.bind_eq_bind, Option.bind_some, hyear, hmonth, hday]

/-- Digits are no blanks. -/
theorem dropWhile_places {width : Nat} (hwidth : 0 < width) (n : Nat) (rest : List Char) :
    (places width n ++ rest).dropWhile Text.isBlank = places width n ++ rest := by
  refine Text.dropWhile_of_head ?_
  intro c hc
  exact Text.isBlank_digit (Or.inr (isDigit_head hwidth hc))

/-- Month and day are read up to what is no digit, in front of which no blank stands. -/
theorem monthDay_places {n : Nat} (hn : n < 100) {rest : List Char}
    (hrest : ∀ c, rest.head? = some c → c.isDigit = false) :
    monthDayField? (places 2 n ++ rest) = some (n, rest) := by
  rw [monthDayField?, dropWhile_places (by decide), upTo_places (by decide) hn hrest]

/-- A year of digits has no sign, and is read in the same way. -/
theorem year_places {n : Nat} (hn : n < 10000) {rest : List Char}
    (hrest : ∀ c, rest.head? = some c → c.isDigit = false) :
    yearField? (places 4 n ++ rest) = some ((n : Int), rest) := by
  rw [yearField?, dropWhile_places (by decide)]
  have hhead : ∀ c cs, places 4 n ++ rest = c :: cs → c.isDigit = true := by
    intro c cs h
    exact isDigit_head (by decide) (congrArg List.head? h)
  split
  · rename_i h
    exact absurd (hhead _ _ h) (by decide)
  · rename_i h
    exact absurd (hhead _ _ h) (by decide)
  · rw [upTo_places (by decide) hn hrest]
    rfl

/-- A day in front of what is no digit is read by the second notation, which takes it if nothing
    follows. -/
theorem ofDateText_chars (t : DayText) {rest : List Char}
    (hrest : ∀ c, rest.head? = some c → c.isDigit = false) :
    ofDateText? (String.ofList (t.chars ++ rest))
      = if rest.isEmpty then (Date.of? t.year t.month t.day).map ofDate else none := by
  have hhyphen : ∀ (cs : List Char) (c : Char), ('-' :: cs).head? = some c → c.isDigit = false := by
    rintro cs c ⟨⟩
    rfl
  have hyear := year_places t.year.isLt
    (hhyphen (places 2 t.month ++ '-' :: (places 2 t.day ++ rest)))
  have hmonth := monthDay_places t.month.isLt (hhyphen (places 2 t.day ++ rest))
  have hday := monthDay_places t.day.isLt hrest
  rw [ofDateText?, String.toList_ofList, DayText.chars]
  simp only [List.append_assoc, List.cons_append, Option.bind_eq_bind, Option.bind_some, hyear,
    hmonth, hday, guard]
  cases rest with
  | nil =>
      cases Date.of? t.year t.month t.day with
      | none => rfl
      | some d => rfl
  | cons c rest => rfl

/-- **A day alone is read as its first moment.** -/
theorem ofText_dayText (t : DayText) :
    ofText? t.text = (Date.of? t.year t.month t.day).map ofDate := by
  have hread := ofDateText_chars t fun c (h : [].head? = some c) => nomatch h
  rw [List.append_nil] at hread
  rw [ofText?, ofRfc3339_dayText, DayText.text, hread]
  rfl

/-- **A day with a time is read in the first notation only**: in the second one nothing stands
    behind the day. -/
theorem ofText_timestamp (t : Timestamp) :
    ofText? t.text = (Date.of? t.year t.month t.day).map fun d => t.instantOn d.dayNumber := by
  have hseparator : ∀ c, (t.separator :: t.timeChars).head? = some c → c.isDigit = false := by
    intro c hc
    obtain rfl := Option.some.inj hc
    exact (separator_read t).2
  have hsecond : ofDateText? t.text = none := ofDateText_chars t.toDayText hseparator
  rw [ofText?, ofRfc3339_text, hsecond, Option.orElse_eq_orElse, Option.orElse_eq_or,
    Option.or_none]

end Instant

/-! ## What is denoted -/

namespace DayText

/-- A day that exists is found, since the calendar reaches beyond four digits. -/
theorem of_isReal {t : DayText} (h : t.date.IsReal) :
    Date.of? t.year t.month t.day = some t.date := by
  have := t.year.isLt
  exact Date.of_eq_some.mpr ⟨rfl, h, by omega, by omega⟩

/-- A day that does not exist is not found. -/
theorem of_not_isReal {t : DayText} (h : ¬ t.date.IsReal) :
    Date.of? t.year t.month t.day = none := by
  rw [Option.eq_none_iff_forall_ne_some]
  intro d hd
  obtain ⟨rfl, hreal, -⟩ := Date.of_eq_some.mp hd
  exact h hreal

end DayText

/-- **Times in writing denote the instants that their fields add up to.**  Where the day is the
    `n`-th one, a day with a time denotes the seconds up to the day and those of the time, without
    those of the offset, and its fraction.  So it does not matter in which offset an instant is
    written.  The day alone denotes the same as with midnight in UTC behind it.  A day that does
    not exist denotes nothing, alone or with a time. -/
theorem timestamps_denote (t : Timestamp) :
    (∀ n, Date.IsDay n t.date →
      (Created.text t.text).instant? = some
        ⟨86400 * n + 3600 * t.hour + 60 * t.minute + t.second - t.offset.seconds, t.nanos⟩ ∧
      (Created.text t.toDayText.text).instant? = some ⟨86400 * n, 0⟩ ∧
      (Created.text (t.toDayText.text ++ "T00:00:00Z")).instant? = some ⟨86400 * n, 0⟩ ∧
      ∀ (u : Timestamp) (k : Int), Date.IsDay k u.date → u.instantOn k = t.instantOn n →
        (Created.text u.text).instant? = (Created.text t.text).instant?) ∧
    (¬ t.date.IsReal →
      (Created.text t.text).instant? = none ∧ (Created.text t.toDayText.text).instant? = none) ∧
    (t.date.IsReal ↔ ∃ n, Date.IsDay n t.date) := by
  -- an instant is the sum of its fields, so the rest is about sums
  have hdenotes : ∀ (u : Timestamp) (k : Int), Date.IsDay k u.date →
      (Created.text u.text).instant? = some (u.instantOn k) := by
    intro u k hday
    obtain ⟨hreal, rfl⟩ := hday.numbered
    rw [Created.instant?, Instant.ofText_timestamp, DayText.of_isReal hreal]
    rfl
  refine ⟨?_, ?_, Date.isReal_iff⟩
  · intro n hday
    refine ⟨hdenotes t n hday, ?_, ?_, ?_⟩
    · obtain ⟨hreal, rfl⟩ := hday.numbered
      rw [Created.instant?, Instant.ofText_dayText, DayText.of_isReal hreal, Option.map_some,
        Instant.ofDate, Instant.daySeconds, Int.mul_comm]
    · rw [← DayText.text_midnight, hdenotes t.toDayText.midnight n hday, Timestamp.instantOn]
      simp [DayText.midnight, OffsetText.seconds, Timestamp.nanos]
    · intro u k hday' heq
      rw [hdenotes t n hday, hdenotes u k hday', heq]
  · intro hunreal
    rw [Created.instant?, Instant.ofText_timestamp, DayText.of_not_isReal hunreal]
    rw [Created.instant?, Instant.ofText_dayText, DayText.of_not_isReal hunreal]
    exact ⟨rfl, rfl⟩

/-- The offset can move an instant into another year. -/
example : (Created.text "1999-12-31T23:30:00.25-01:00").instant?
    = (Created.text "2000-01-01t00:30:00.250Z").instant? := by decide

end Postbox
