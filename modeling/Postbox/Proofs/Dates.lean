import Postbox.Proofs.Milliseconds
import Postbox.Proofs.Timestamps

/-! # Dates — counted time as it is shown

    A count of milliseconds is shown as the day that holds it and the minute of that day, each
    number in a column of fixed width (`toList_minuteText`).  So the day is read back from the
    text as its first moment.  And texts have the order of the counts: the columns go from the
    year down to the minute, and a later day or minute has the larger number in the first column
    that differs (`columns_lt`). -/

namespace Postbox

open Decimal

/-- A day in columns. -/
def Date.columns (d : Date) : List Char :=
  places 4 d.year.toNat ++ '-' :: (places 2 d.month ++ '-' :: places 2 d.day)

namespace Instant

/-- A minute of the day in columns of hours and minutes. -/
def minuteColumns (minutes : Nat) : List Char :=
  places 2 (minutes / 60) ++ ':' :: places 2 (minutes % 60)

/-! ## Writing -/

/-- The columns of a day make up its ten characters. -/
theorem length_columns (d : Date) : d.columns.length = 10 := by
  simp only [Date.columns, List.length_append, List.length_cons, length_places]

/-- The columns of a minute make up its five characters. -/
theorem length_minuteColumns (minutes : Nat) : (minuteColumns minutes).length = 5 := by
  simp only [minuteColumns, List.length_append, List.length_cons, length_places]

/-- A year of at most four digits has no sign. -/
theorem toList_yearText {year : Int} (early : 0 ≤ year) (late : year ≤ 9999) :
    (yearText year).toList = places 4 year.toNat := by
  have hnat : year.natAbs = year.toNat := by omega
  rw [yearText, if_neg (Int.not_lt_of_ge early), if_neg (Int.not_lt_of_ge late), hnat,
    toList_padded (by decide) (by omega)]

/-- **An instant is shown in columns**, if its day has a year of at most four digits. -/
theorem toList_minuteText {t : Instant} {d : Date} (day : Date.IsDay (t.secs / daySeconds) d)
    (early : 0 ≤ d.year) (late : d.year ≤ 9999) :
    t.minuteText.toList
      = d.columns ++ ' ' :: minuteColumns (t.secs % daySeconds / 60).toNat := by
  have hdate : t.date = d := Date.ofDayNumber_eq.mpr day
  obtain ⟨hreal, -⟩ := day.numbered
  have hmonth := hreal.month_le
  have hday := hreal.day_le_longest
  have hminutes : (t.secs % daySeconds / 60).toNat < 1440 := by
    unfold daySeconds
    omega
  rw [minuteText, hdate]
  generalize (t.secs % daySeconds / 60).toNat = minutes at hminutes
  simp only [String.toList_append, toList_yearText early late]
  rw [toList_padded (by decide) (by omega), toList_padded (by decide) (by omega),
    toList_padded (by decide) (by omega), toList_padded (by decide) (by omega)]
  simp only [Date.columns, minuteColumns, List.append_assoc, List.cons_append]
  rfl

/-! ## Order -/

/-- A later minute is shown behind an earlier one. -/
theorem minuteColumns_lt {m n : Nat} (hn : n < 1440) (h : m < n) :
    minuteColumns m < minuteColumns n := by
  refine places_append_lt (by omega) ?_
  rcases Nat.lt_or_eq_of_le (Nat.div_le_div_right (c := 60) (Nat.le_of_lt h)) with hlt | heq
  · exact Or.inl hlt
  · exact Or.inr ⟨heq, mark_lt _ (places_lt (by omega) (by omega))⟩

/-- A later day is shown behind an earlier one, whatever follows. -/
theorem columns_lt {d e : Date} (he : e.IsReal) (early : 0 ≤ d.year) (late : e.year ≤ 9999)
    (h : d.Precedes e) (rest rest' : List Char) : d.columns ++ rest < e.columns ++ rest' := by
  have hmonth := he.month_le
  have hday := he.day_le_longest
  simp only [Date.columns, List.append_assoc, List.cons_append]
  refine places_append_lt (by omega) ?_
  rcases h with hyear | ⟨hyear, hbehind⟩
  · exact Or.inl (by omega)
  · refine Or.inr ⟨by rw [hyear], mark_lt _ (places_append_lt (by omega) ?_)⟩
    rcases hbehind with hmonths | ⟨hmonths, hdays⟩
    · exact Or.inl hmonths
    · exact Or.inr ⟨hmonths, mark_lt _ (places_append_lt (by omega) (Or.inl hdays))⟩

end Instant

/-! ## Counts -/

/-- A day with a year of four digits is one in writing. -/
theorem DayText.exists_of_isReal {d : Date} (hreal : d.IsReal) (early : 0 ≤ d.year)
    (late : d.year ≤ 9999) : ∃ t : DayText, t.date = d ∧ t.chars = d.columns := by
  have hmonth := hreal.month_le
  have hday := hreal.day_le_longest
  have hyear : ((d.year.toNat : Nat) : Int) = d.year := Int.toNat_of_nonneg early
  refine ⟨⟨⟨d.year.toNat, by omega⟩, ⟨d.month, by omega⟩, ⟨d.day, by omega⟩⟩, ?_, rfl⟩
  rw [DayText.date, hyear]

/-- **A count is shown as day and minute**, if the day has a year of at most four digits. -/
theorem Created.toList_display {ms : Int64} {d : Date}
    (day : Date.IsDay (ms.toInt / 86400000) d) (early : 0 ≤ d.year) (late : d.year ≤ 9999) :
    (millis ms).display.toList
      = d.columns ++ ' ' :: Instant.minuteColumns (ms.toInt / 60000 % 1440).toNat := by
  have hreach : Instant.Reaches ms.toInt :=
    Instant.reaches_iff_day.mpr ⟨d, day, by omega, by omega⟩
  have hday : ms.toInt / 1000 / Instant.daySeconds = ms.toInt / 86400000 := by
    rw [Instant.daySeconds]
    omega
  have hminutes : ms.toInt / 1000 % Instant.daySeconds / 60 = ms.toInt / 60000 % 1440 := by
    rw [Instant.daySeconds]
    omega
  rw [display, Instant.ofMillis_eq_some.mpr ⟨hreach, rfl⟩]
  dsimp only
  rw [Instant.toList_minuteText (by rw [hday]; exact day) early late, hminutes]

/-- **Counts are shown in their order.**  Either the days differ, or the minutes do, or both texts
    are the same. -/
theorem Created.display_le {ms ms' : Int64} {d d' : Date}
    (day : Date.IsDay (ms.toInt / 86400000) d) (early : 0 ≤ d.year) (late : d.year ≤ 9999)
    (day' : Date.IsDay (ms'.toInt / 86400000) d') (early' : 0 ≤ d'.year) (late' : d'.year ≤ 9999)
    (h : ms ≤ ms') : (millis ms).display ≤ (millis ms').display := by
  have hcount := Int64.le_iff_toInt_le.mp h
  have hshown := toList_display day early late
  have hshown' := toList_display day' early' late'
  obtain ⟨hreal, hnumber⟩ := day.numbered
  obtain ⟨hreal', hnumber'⟩ := day'.numbered
  rcases Int.lt_or_eq_of_le (Int.ediv_le_ediv (c := 86400000) (by decide) hcount) with hlt | heq
  · rw [← hnumber, ← hnumber', Date.dayNumber_lt_iff hreal hreal'] at hlt
    refine le_of_lt (String.lt_iff_toList_lt.mpr ?_)
    rw [hshown, hshown']
    exact Instant.columns_lt hreal' early late' hlt _ _
  · obtain rfl := Date.dayNumber_inj hreal hreal' (by rw [hnumber, hnumber', heq])
    have hminutes : (ms.toInt / 60000 % 1440).toNat ≤ (ms'.toInt / 60000 % 1440).toNat := by
      omega
    rcases Nat.lt_or_eq_of_le hminutes with hlt | hsame
    · refine le_of_lt (String.lt_iff_toList_lt.mpr ?_)
      rw [hshown, hshown']
      exact List.append_left_lt (mark_lt _ (Instant.minuteColumns_lt (by omega) hlt))
    · rw [← hsame, ← hshown] at hshown'
      exact le_of_eq (String.toList_inj.mp hshown'.symm)

/-- **Dates are shown and read alike.**  A count of milliseconds in a year of at most four digits
    is shown as the day that holds it and the minute of that day, in 16 characters.  The first
    ten, taken as a time of creation, are the first moment of the day.  And a later count is not
    shown before an earlier one. -/
theorem dates_shown {ms : Int64} {d : Date} (day : Date.IsDay (ms.toInt / 86400000) d)
    (early : 0 ≤ d.year) (late : d.year ≤ 9999) :
    (Created.millis ms).display.toList
      = d.columns ++ ' ' :: Instant.minuteColumns (ms.toInt / 60000 % 1440).toNat ∧
    (Created.millis ms).display.length = 16 ∧
    (Created.text (String.ofList ((Created.millis ms).display.toList.take 10))).instant?
      = some ⟨86400 * (ms.toInt / 86400000), 0⟩ ∧
    ∀ (ms' : Int64) (d' : Date), Date.IsDay (ms'.toInt / 86400000) d' → 0 ≤ d'.year →
      d'.year ≤ 9999 → ms ≤ ms' →
      (Created.millis ms).display ≤ (Created.millis ms').display := by
  have hshown := Created.toList_display day early late
  refine ⟨hshown, ?_, ?_, fun ms' d' => Created.display_le day early late⟩
  · rw [← String.length_toList, hshown, List.length_append, List.length_cons,
      Instant.length_columns, Instant.length_minuteColumns]
  · obtain ⟨hreal, hnumber⟩ := day.numbered
    obtain ⟨t, rfl, hchars⟩ := DayText.exists_of_isReal hreal early late
    rw [hshown, List.take_left' (Instant.length_columns _), ← hchars]
    have hread := Instant.ofText_dayText t
    rw [DayText.of_isReal hreal, Option.map_some, Instant.ofDate, hnumber] at hread
    exact hread.trans (by rw [Instant.daySeconds, Int.mul_comm])

/-- The last minute before 1970. -/
theorem dates_shown_eve :
    Date.IsDay ((-1 : Int64).toInt / 86400000) ⟨1969, 12, 31⟩ ∧
    (Created.millis (-1)).display = "1969-12-31 23:59" ∧
    (Created.text "1969-12-31").instant? = some ⟨-86400, 0⟩ ∧
    (Created.millis (-1)).display ≤ (Created.millis 0).display := by
  have heve : Date.IsDay ((-1 : Int64).toInt / 86400000) ⟨1969, 12, 31⟩ :=
    Date.ofDayNumber_eq.mp (by decide)
  have hepoch : Date.IsDay ((0 : Int64).toInt / 86400000) ⟨1970, 1, 1⟩ := Date.IsDay.epoch
  obtain ⟨hshown, -, hread, hle⟩ := dates_shown heve (by decide) (by decide)
  refine ⟨heve, ?_, ?_, hle 0 _ hepoch (by decide) (by decide) (by decide)⟩
  · exact String.toList_inj.mp (hshown.trans (by decide))
  · rw [hshown] at hread
    exact hread

end Postbox
