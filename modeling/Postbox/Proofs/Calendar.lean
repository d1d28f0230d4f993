import Postbox.Calendar
import Mathlib.Data.Int.Init
import Mathlib.Data.List.GetD

/-! # Calendar — the days, one after the other

    The proleptic Gregorian calendar is a rule about which days there are: the lengths of the
    months, with a leap day in some years, and the day that comes after a day.  Counted from
    1970-01-01 on and back, each day has a number (`Date.IsDay`).

    Nobody counts like this.  A day number is computed from whole years and months, and the date
    of a day number from an estimate of its year.  That both agree with counting comes from one
    step: the day after has the next number (`dayNumber_next`).  Since every number is the one of
    an existing day (`numbered_ofDayNumber`), and later days have larger numbers
    (`dayNumber_lt_iff`), the `n`-th day is the existing date with the number `n` (`isDay_iff`). -/

namespace Postbox

open Calendar

namespace Date

/-! ## The rule -/

/-- A year has a leap day: each fourth year, but of the hundredth years only each fourth. -/
def IsLeapYear (year : Int) : Prop := 4 ∣ year ∧ (¬ 100 ∣ year ∨ 400 ∣ year)

instance : DecidablePred IsLeapYear := fun year =>
  inferInstanceAs (Decidable (4 ∣ year ∧ (¬ 100 ∣ year ∨ 400 ∣ year)))

/-- The days of a month. -/
def monthLength (year : Int) (month : Nat) : Nat :=
  if month = 2 then if IsLeapYear year then 29 else 28
  else if month ∈ [4, 6, 9, 11] then 30
  else 31

/-- The days of a year. -/
def yearLength (year : Int) : Nat := if IsLeapYear year then 366 else 365

/-- The day exists. -/
structure IsReal (d : Date) : Prop where
  month_pos : 1 ≤ d.month
  month_le : d.month ≤ 12
  day_pos : 1 ≤ d.day
  day_le : d.day ≤ monthLength d.year d.month

/-- The day after a day. -/
def next (d : Date) : Date :=
  if d.day < monthLength d.year d.month then ⟨d.year, d.month, d.day + 1⟩
  else if d.month < 12 then ⟨d.year, d.month + 1, 1⟩
  else ⟨d.year + 1, 1, 1⟩

/-- The day that is `n` days after 1970-01-01, or as many days before it where `n` is negative. -/
inductive IsDay : Int → Date → Prop
  | epoch : IsDay 0 ⟨1970, 1, 1⟩
  | forth {n : Int} {d : Date} (h : IsDay n d) : IsDay (n + 1) d.next
  | back {n : Int} {d : Date} (real : d.IsReal) (h : IsDay (n + 1) d.next) : IsDay n d

/-- One day is before another. -/
def Precedes (d e : Date) : Prop :=
  d.year < e.year ∨ d.year = e.year ∧ (d.month < e.month ∨ d.month = e.month ∧ d.day < e.day)

/-! ## Years -/

/-- The calendar has the leap years of the rule. -/
theorem isLeap_iff (year : Int) : isLeap year = true ↔ IsLeapYear year := by
  simp only [isLeap, IsLeapYear, Bool.and_eq_true, Bool.or_eq_true, beq_iff_eq, bne_iff_ne]
  omega

/-- A year begins behind the year before. -/
theorem daysBeforeYear_next (year : Int) :
    daysBeforeYear (year + 1) = daysBeforeYear year + yearLength year := by
  -- a quotient grows just behind a multiple of its divisor
  have hfour : (year + 1 + 3) / 4 = (year + 3) / 4 + if 4 ∣ year then 1 else 0 := by
    split <;> omega
  have hhundred : (year + 1 + 99) / 100 = (year + 99) / 100 + if 100 ∣ year then 1 else 0 := by
    split <;> omega
  have hmore : (year + 1 + 399) / 400 = (year + 399) / 400 + if 400 ∣ year then 1 else 0 := by
    split <;> omega
  have hhundredth : 100 ∣ year → 4 ∣ year := by omega
  have hfourth : 400 ∣ year → 100 ∣ year := by omega
  unfold daysBeforeYear yearLength IsLeapYear
  rw [hfour, hhundred, hmore]
  grind

/-- Of years in a row the later ones begin later. -/
theorem daysBeforeYear_mono {a b : Int} (h : a ≤ b) : daysBeforeYear a ≤ daysBeforeYear b := by
  unfold daysBeforeYear
  omega

/-- What begins earlier is an earlier year. -/
theorem lt_of_daysBeforeYear_lt {a b : Int} (h : daysBeforeYear a < daysBeforeYear b) :
    a < b := by
  refine Int.lt_of_not_ge fun hle => ?_
  exact absurd (daysBeforeYear_mono hle) (Int.not_le_of_gt h)

/-- **The estimate finds the year.**  It is off by one at most, since no year is a whole year
    away from the mean length. -/
theorem daysBeforeYear_yearOf (n : Int) :
    daysBeforeYear (yearOf n) ≤ n ∧ n < daysBeforeYear (yearOf n + 1) := by
  have hlow : daysBeforeYear (n * 400 / 146097 - 1) ≤ n := by
    unfold daysBeforeYear
    omega
  have hhigh : n < daysBeforeYear (n * 400 / 146097 + 1 + 1) := by
    unfold daysBeforeYear
    omega
  unfold yearOf
  dsimp only
  split
  · rename_i h
    exact ⟨h, hhigh⟩
  · split
    · rename_i hnext h
      exact ⟨h, by omega⟩
    · rename_i h
      rw [Int.sub_add_cancel]
      exact ⟨hlow, by omega⟩

/-! ## Months -/

/-- Each month has a first day. -/
theorem monthLength_pos (year : Int) (month : Nat) : 1 ≤ monthLength year month := by
  unfold monthLength
  split
  · split <;> omega
  · split <;> omega

/-- No month has more than 31 days. -/
theorem monthLength_le (year : Int) (month : Nat) : monthLength year month ≤ 31 := by
  unfold monthLength
  split
  · split <;> omega
  · split <;> omega

/-- No day that exists has a larger number in its month. -/
theorem IsReal.day_le_longest {d : Date} (h : d.IsReal) : d.day ≤ 31 :=
  Nat.le_trans h.day_le (monthLength_le _ _)

/-- The table of the months has their lengths. -/
theorem monthLengths_get : ∀ leap : Bool, ∀ month < 13, 1 ≤ month →
    (monthLengths leap).getD (month - 1) 0
      = if month = 2 then if leap then 29 else 28
        else if month ∈ [4, 6, 9, 11] then 30 else 31 := by
  decide

theorem monthLengths_eq (year : Int) {month : Nat} (hpos : 1 ≤ month) (hle : month ≤ 12) :
    (monthLengths (isLeap year)).getD (month - 1) 0 = monthLength year month := by
  rw [monthLengths_get _ month (Nat.lt_succ_of_le hle) hpos, monthLength]
  simp only [isLeap_iff]

/-- A month begins behind the month before. -/
theorem daysBeforeMonth_get : ∀ leap : Bool, ∀ month < 12, 1 ≤ month →
    daysBeforeMonth leap (month + 1)
      = daysBeforeMonth leap month + (monthLengths leap).getD (month - 1) 0 := by
  decide

theorem daysBeforeMonth_next (year : Int) {month : Nat} (hpos : 1 ≤ month) (hlt : month < 12) :
    daysBeforeMonth (isLeap year) (month + 1)
      = daysBeforeMonth (isLeap year) month + monthLength year month := by
  rw [daysBeforeMonth_get _ month hlt hpos, monthLengths_eq year hpos (Nat.le_of_lt hlt)]

/-- December is the rest of the year. -/
theorem daysBeforeMonth_last (year : Int) :
    daysBeforeMonth (isLeap year) 12 + 31 = yearLength year := by
  have hlast : ∀ leap : Bool, daysBeforeMonth leap 12 + 31 = if leap then 366 else 365 := by
    decide
  rw [hlast, yearLength]
  simp only [isLeap_iff]

/-- Of the months of a year the later ones begin later. -/
theorem daysBeforeMonth_mono : ∀ leap : Bool, ∀ b < 13, ∀ a ≤ b,
    daysBeforeMonth leap a ≤ daysBeforeMonth leap b := by
  decide

/-- A month ends where the next one begins, and December with the year. -/
theorem month_end (year : Int) {month : Nat} (hpos : 1 ≤ month) (hle : month ≤ 12) :
    daysBeforeMonth (isLeap year) month + monthLength year month ≤ yearLength year := by
  rw [← daysBeforeMonth_last]
  rcases Nat.lt_or_eq_of_le hle with hlt | rfl
  · rw [← daysBeforeMonth_next year hpos hlt]
    have := daysBeforeMonth_mono (isLeap year) 12 (by decide) (month + 1) hlt
    omega
  · exact Nat.le_refl _

/-- The days of months are those of the first one and of the others. -/
theorem foldl_cons (length : Nat) (later : List Nat) :
    (length :: later).foldl (· + ·) 0 = length + later.foldl (· + ·) 0 := by
  rw [← List.sum_eq_foldl_nat, ← List.sum_eq_foldl_nat, List.sum_cons]

/-- Walking through months ends in the one that holds the day. -/
theorem monthDay_eq (lengths : List Nat) (first n : Nat) (h : n < lengths.foldl (· + ·) 0) :
    ∃ i day, monthDay first lengths n = (first + i, day + 1) ∧ day < lengths.getD i 0 ∧
      n = (lengths.take i).foldl (· + ·) 0 + day := by
  induction lengths generalizing first n with
  | nil => exact absurd h (Nat.not_lt_zero n)
  | cons length later ih =>
      rw [monthDay]
      by_cases hn : n < length
      · rw [if_pos hn]
        exact ⟨0, n, rfl, hn, (Nat.zero_add n).symm⟩
      · rw [if_neg hn]
        rw [foldl_cons] at h
        obtain ⟨i, day, heq, hday, hrest⟩ := ih (first + 1) (n - length) (by omega)
        refine ⟨i + 1, day, ?_, hday, ?_⟩
        · rw [heq, Nat.add_assoc, Nat.add_comm 1 i]
        · rw [List.take_succ_cons, foldl_cons]
          omega

/-! ## Days -/

/-- What the calendar takes for a day is one that exists. -/
theorem isValid_iff (d : Date) : d.isValid = true ↔ d.IsReal := by
  have hlength : ∀ leap : Bool, (monthLengths leap).length = 12 := by decide
  simp only [isValid, Bool.and_eq_true, decide_eq_true_eq]
  constructor
  · rintro ⟨⟨hmonth, hday⟩, hlast⟩
    -- behind the end of the table no month has a day
    rcases Nat.lt_or_ge 12 d.month with hgt | hle
    · rw [List.getD_eq_default _ _ (by rw [hlength]; omega)] at hlast
      omega
    · rw [monthLengths_eq d.year hmonth hle] at hlast
      exact ⟨hmonth, hle, hday, hlast⟩
  · rintro ⟨hmonth, hle, hday, hlast⟩
    rw [monthLengths_eq d.year hmonth hle]
    exact ⟨⟨hmonth, hday⟩, hlast⟩

/-- A day is looked up by its year, month and day, as far as the calendar reaches. -/
theorem of_eq_some {year : Int} {month day : Nat} {d : Date} :
    of? year month day = some d
      ↔ d = ⟨year, month, day⟩ ∧ d.IsReal ∧ -262143 ≤ year ∧ year ≤ 262142 := by
  rw [of?, Option.ite_none_right_eq_some, Option.some_inj]
  simp only [Bool.and_eq_true, decide_eq_true_eq, isValid_iff]
  constructor
  · rintro ⟨⟨⟨hreal, hlow⟩, hhigh⟩, rfl⟩
    exact ⟨rfl, hreal, hlow, hhigh⟩
  · rintro ⟨rfl, hreal, hlow, hhigh⟩
    exact ⟨⟨⟨hreal, hlow⟩, hhigh⟩, rfl⟩

/-- The days of a year lie between the first day of it and the first day of the next. -/
theorem IsReal.within_year {d : Date} (h : d.IsReal) :
    daysBeforeYear d.year ≤ d.dayNumber + epoch ∧
      d.dayNumber + epoch < daysBeforeYear (d.year + 1) := by
  obtain ⟨hpos, hle, hday, hlast⟩ := h
  have hend := month_end d.year hpos hle
  rw [daysBeforeYear_next]
  unfold dayNumber
  omega

/-- An earlier day has a smaller number. -/
theorem dayNumber_lt {d e : Date} (hd : d.IsReal) (he : e.IsReal) (h : d.Precedes e) :
    d.dayNumber < e.dayNumber := by
  rcases h with hyear | ⟨hyear, hmonth | ⟨hmonth, hday⟩⟩
  · have := daysBeforeYear_mono (Int.add_one_le_of_lt hyear)
    have := hd.within_year
    have := he.within_year
    omega
  · have hnext := daysBeforeMonth_next d.year hd.month_pos (Nat.lt_of_lt_of_le hmonth he.month_le)
    have := daysBeforeMonth_mono (isLeap d.year) e.month (Nat.lt_succ_of_le he.month_le)
      (d.month + 1) hmonth
    have := hd.day_le
    have := he.day_pos
    unfold dayNumber
    rw [← hyear]
    omega
  · unfold dayNumber
    rw [← hyear, ← hmonth]
    omega

/-- Of two days one is before the other, if they are not the same. -/
theorem precedes_or (d e : Date) : d.Precedes e ∨ d = e ∨ e.Precedes d := by
  have heq : d = e ↔ d.year = e.year ∧ d.month = e.month ∧ d.day = e.day := by
    cases d
    cases e
    simp only [mk.injEq]
  rw [heq]
  unfold Precedes
  omega

/-- **Days are in the order of their numbers.** -/
theorem dayNumber_lt_iff {d e : Date} (hd : d.IsReal) (he : e.IsReal) :
    d.dayNumber < e.dayNumber ↔ d.Precedes e := by
  constructor
  · intro hlt
    rcases precedes_or d e with hde | rfl | hed
    · exact hde
    · exact absurd hlt (Int.lt_irrefl _)
    · exact absurd hlt (Int.lt_asymm (dayNumber_lt he hd hed))
  · exact dayNumber_lt hd he

/-- No two days have the same number. -/
theorem dayNumber_inj {d e : Date} (hd : d.IsReal) (he : e.IsReal)
    (h : d.dayNumber = e.dayNumber) : d = e := by
  rcases precedes_or d e with hde | heq | hed
  · have := dayNumber_lt hd he hde
    omega
  · exact heq
  · have := dayNumber_lt he hd hed
    omega

/-- A year has the days of its months. -/
theorem foldl_monthLengths (year : Int) :
    (monthLengths (isLeap year)).foldl (· + ·) 0 = yearLength year := by
  have htable : ∀ leap : Bool,
      (monthLengths leap).foldl (· + ·) 0 = if leap then 366 else 365 := by decide
  rw [htable, yearLength]
  simp only [isLeap_iff]

/-- **Each number is the one of a day.**  The year and the month that are found hold the day, so
    the day exists, and what is before it makes up the number. -/
theorem numbered_ofDayNumber (n : Int) :
    (ofDayNumber n).IsReal ∧ (ofDayNumber n).dayNumber = n := by
  obtain ⟨hlow, hhigh⟩ := daysBeforeYear_yearOf (n + epoch)
  unfold ofDayNumber
  dsimp only
  generalize yearOf (n + epoch) = year at hlow hhigh
  rw [daysBeforeYear_next, ← foldl_monthLengths] at hhigh
  obtain ⟨i, day, heq, hday, hrest⟩ := monthDay_eq (monthLengths (isLeap year)) 1
    (n + epoch - daysBeforeYear year).toNat (by omega)
  rw [heq]
  constructor
  · rw [← isValid_iff, isValid]
    simp only [Bool.and_eq_true, decide_eq_true_eq, Nat.add_sub_cancel_left]
    omega
  · rw [dayNumber, daysBeforeMonth, Nat.add_sub_cancel_left]
    dsimp only
    omega

/-- The days from the first one of a year to the last one of another are those of the years in
    between. -/
theorem IsReal.within_years {d : Date} (h : d.IsReal) (a b : Int) :
    (daysBeforeYear a ≤ d.dayNumber + epoch ∧ d.dayNumber + epoch < daysBeforeYear (b + 1))
      ↔ a ≤ d.year ∧ d.year ≤ b := by
  obtain ⟨hlow, hhigh⟩ := h.within_year
  constructor
  · rintro ⟨ha, hb⟩
    have hfirst := lt_of_daysBeforeYear_lt (Int.lt_of_le_of_lt ha hhigh)
    have hlast := lt_of_daysBeforeYear_lt (Int.lt_of_le_of_lt hlow hb)
    omega
  · rintro ⟨ha, hb⟩
    have := daysBeforeYear_mono ha
    have := daysBeforeYear_mono (Int.add_le_add_right hb 1)
    omega

/-! ## Counting -/

/-- The day after is in the same month, or the first one of the next month or of the next year. -/
theorem IsReal.next_cases {d : Date} (h : d.IsReal) :
    (d.day < monthLength d.year d.month ∧ d.next = ⟨d.year, d.month, d.day + 1⟩) ∨
    (d.day = monthLength d.year d.month ∧ d.month < 12 ∧ d.next = ⟨d.year, d.month + 1, 1⟩) ∨
    (d.day = 31 ∧ d.month = 12 ∧ d.next = ⟨d.year + 1, 1, 1⟩) := by
  obtain ⟨-, hle, -, hlast⟩ := h
  unfold Date.next
  by_cases hwithin : d.day < monthLength d.year d.month
  · rw [if_pos hwithin]
    exact Or.inl ⟨hwithin, rfl⟩
  · rw [if_neg hwithin]
    have hend : d.day = monthLength d.year d.month := by omega
    by_cases hmonth : d.month < 12
    · rw [if_pos hmonth]
      exact Or.inr (Or.inl ⟨hend, hmonth, rfl⟩)
    · rw [if_neg hmonth]
      have hdecember : d.month = 12 := by omega
      rw [hdecember] at hend
      exact Or.inr (Or.inr ⟨hend, hdecember, rfl⟩)

/-- The day after an existing day exists. -/
theorem IsReal.next {d : Date} (h : d.IsReal) : d.next.IsReal := by
  rcases h.next_cases with ⟨hwithin, heq⟩ | ⟨-, hmonth, heq⟩ | ⟨-, -, heq⟩
  · rw [heq]
    exact ⟨h.month_pos, h.month_le, Nat.le_add_left 1 _, hwithin⟩
  · rw [heq]
    exact ⟨Nat.le_add_left 1 _, hmonth, Nat.le_refl 1, monthLength_pos _ _⟩
  · rw [heq]
    exact ⟨Nat.le_refl 1, Nat.le_add_left 1 11, Nat.le_refl 1, monthLength_pos _ _⟩

/-- **The day after has the next number.** -/
theorem dayNumber_next {d : Date} (h : d.IsReal) : d.next.dayNumber = d.dayNumber + 1 := by
  rcases h.next_cases with ⟨-, heq⟩ | ⟨hend, hmonth, heq⟩ | ⟨hend, hdecember, heq⟩
  · rw [heq]
    simp only [dayNumber]
    omega
  · have hnext := daysBeforeMonth_next d.year h.month_pos hmonth
    rw [heq]
    simp only [dayNumber]
    omega
  · have hrest := daysBeforeMonth_last d.year
    have hyear := daysBeforeYear_next d.year
    have hfirst : ∀ leap : Bool, daysBeforeMonth leap 1 = 0 := by decide
    rw [heq]
    simp only [dayNumber, hfirst, hdecember, hend]
    omega

/-- The day counted to is one that exists, and has the number counted. -/
theorem IsDay.numbered {n : Int} {d : Date} (h : IsDay n d) : d.IsReal ∧ d.dayNumber = n := by
  induction h with
  | epoch =>
      rw [← isValid_iff]
      decide
  | forth _ ih =>
      obtain ⟨hreal, hnumber⟩ := ih
      exact ⟨hreal.next, by rw [dayNumber_next hreal, hnumber]⟩
  | back hreal _ ih =>
      have hnext := dayNumber_next hreal
      exact ⟨hreal, by omega⟩

/-- Counting gets to every day. -/
theorem isDay_dayNumber {d : Date} (h : d.IsReal) : IsDay d.dayNumber d := by
  suffices hall : ∀ n : Int, IsDay n (ofDayNumber n) by
    obtain ⟨hreal, hnumber⟩ := numbered_ofDayNumber d.dayNumber
    have hfound := hall d.dayNumber
    rwa [dayNumber_inj hreal h hnumber] at hfound
  -- the day that a neighbour leads to is the one with the number
  have hnext : ∀ n : Int, (ofDayNumber n).next = ofDayNumber (n + 1) := by
    intro n
    obtain ⟨hreal, hnumber⟩ := numbered_ofDayNumber n
    obtain ⟨hreal', hnumber'⟩ := numbered_ofDayNumber (n + 1)
    exact dayNumber_inj hreal.next hreal' (by rw [dayNumber_next hreal, hnumber, hnumber'])
  intro n
  induction n using Int.induction_on with
  | zero => exact IsDay.epoch
  | succ n ih =>
      rw [← hnext]
      exact ih.forth
  | pred n ih =>
      refine IsDay.back (numbered_ofDayNumber _).1 ?_
      rw [hnext, Int.sub_add_cancel]
      exact ih

/-- **Counting and computing agree.**  The `n`-th day is the existing one with the day number
    `n`. -/
theorem isDay_iff {n : Int} {d : Date} : IsDay n d ↔ d.IsReal ∧ d.dayNumber = n := by
  constructor
  · exact IsDay.numbered
  · rintro ⟨hreal, rfl⟩
    exact isDay_dayNumber hreal

/-- The days that exist are those that counting gets to. -/
theorem isReal_iff {d : Date} : d.IsReal ↔ ∃ n, IsDay n d := by
  constructor
  · intro hreal
    exact ⟨d.dayNumber, isDay_dayNumber hreal⟩
  · rintro ⟨n, h⟩
    exact h.numbered.1

/-- The day that is found for a number is the one counted to. -/
theorem ofDayNumber_eq {n : Int} {d : Date} : ofDayNumber n = d ↔ IsDay n d := by
  obtain ⟨hreal, hnumber⟩ := numbered_ofDayNumber n
  rw [isDay_iff]
  constructor
  · rintro rfl
    exact ⟨hreal, hnumber⟩
  · rintro ⟨hd, rfl⟩
    exact dayNumber_inj hreal hd hnumber

end Date

end Postbox
