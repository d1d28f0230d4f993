import Postbox.Message
import Postbox.Proofs.Calendar
import Postbox.Proofs.Decimal

/-! # Milliseconds — counted time and instants

    A service may state a time as a count of milliseconds.  It is an instant if the calendar has
    its day, and then it is this instant to the nanosecond: what is counted is split into whole
    seconds, rounded down also before 1970, and the rest of a second (`ofMillis_eq_some`).  So
    counts have the order of their instants.  A count that is out of reach is shown as it came
    (`millis_exact`). -/

namespace Postbox

namespace Instant

/-- One instant is before another. -/
def Precedes (t u : Instant) : Prop :=
  t.secs < u.secs ∨ t.secs = u.secs ∧ t.nanos < u.nanos

/-- The day of a count of milliseconds is one of the calendar. -/
def Reaches (ms : Int) : Prop :=
  Date.first.dayNumber ≤ ms / 86400000 ∧ ms / 86400000 ≤ Date.last.dayNumber

/-- **A count is the instant that it is split into**, as far as the calendar reaches. -/
theorem ofMillis_eq_some {ms : Int} {t : Instant} :
    ofMillis? ms = some t ↔ Reaches ms ∧ t = ⟨ms / 1000, (ms % 1000).toNat * 1000000⟩ := by
  have hday : ms / 1000 / daySeconds = ms / 86400000 := by
    rw [daySeconds]
    omega
  rw [ofMillis?, hday, Option.ite_none_right_eq_some, Option.some_inj, @eq_comm _ _ t]
  rfl

theorem ofMillis_isSome {ms : Int} : (ofMillis? ms).isSome = true ↔ Reaches ms := by
  rw [Option.isSome_iff_exists]
  simp only [ofMillis_eq_some, exists_and_left, exists_eq, and_true]

/-- The calendar reaches a day in its years. -/
theorem reaches_iff_day {ms : Int} : Reaches ms ↔
    ∃ d, Date.IsDay (ms / 86400000) d ∧ -262143 ≤ d.year ∧ d.year ≤ 262142 := by
  have hfirst : Date.first.dayNumber + Calendar.epoch = Calendar.daysBeforeYear (-262143) := rfl
  have hlast : Date.last.dayNumber + 1 + Calendar.epoch = Calendar.daysBeforeYear (262142 + 1) :=
    rfl
  have hdays : ∀ d, Date.IsDay (ms / 86400000) d →
      (Reaches ms ↔ -262143 ≤ d.year ∧ d.year ≤ 262142) := by
    intro d hd
    obtain ⟨hreal, hnumber⟩ := hd.numbered
    rw [← hreal.within_years, ← hfirst, ← hlast, hnumber, Reaches]
    omega
  constructor
  · intro h
    have hd := Date.ofDayNumber_eq.mp (Eq.refl (Date.ofDayNumber (ms / 86400000)))
    exact ⟨_, hd, (hdays _ hd).mp h⟩
  · rintro ⟨d, hd, hyears⟩
    exact (hdays d hd).mpr hyears

/-- The first and the last count that the calendar reaches. -/
theorem reaches_iff_count {ms : Int} :
    Reaches ms ↔ -8334601228800000 ≤ ms ∧ ms ≤ 8210266876799999 := by
  have hfirst : Date.first.dayNumber = -96465292 := rfl
  have hlast : Date.last.dayNumber = 95026236 := rfl
  rw [Reaches, hfirst, hlast]
  omega

end Instant

/-- **Counts of milliseconds are exact instants, or none.**  A count is an instant just when its
    day is one of the calendar, that is, between two counts.  The seconds and nanoseconds of the
    instant make up the count, with nothing below a millisecond, and a larger count is a later
    instant.  A count that is no instant is shown in digits, and these are read as the count. -/
theorem millis_exact (ms : Int64) :
    ((Created.millis ms).instant?.isSome = true ↔
      ∃ d, Date.IsDay (ms.toInt / 86400000) d ∧ -262143 ≤ d.year ∧ d.year ≤ 262142) ∧
    ((Created.millis ms).instant?.isSome = true ↔
      -8334601228800000 ≤ ms.toInt ∧ ms.toInt ≤ 8210266876799999) ∧
    (∀ t, (Created.millis ms).instant? = some t →
      1000 * t.secs + (t.nanos / 1000000 : Nat) = ms.toInt ∧
      t.nanos < 1000000000 ∧ 1000000 ∣ t.nanos ∧
      ∀ ms' t', (Created.millis ms').instant? = some t' → (ms < ms' ↔ t.Precedes t')) ∧
    ((Created.millis ms).instant? = none →
      (Created.millis ms).display = toString ms.toInt ∧
      Decimal.int64? (Created.millis ms).display.toList = some ms) := by
  -- the instant is the count divided by a thousand, with the rest in nanoseconds
  simp only [Created.instant?, Instant.ofMillis_isSome]
  refine ⟨Instant.reaches_iff_day, Instant.reaches_iff_count, ?_, ?_⟩
  · intro t ht
    obtain ⟨-, rfl⟩ := Instant.ofMillis_eq_some.mp ht
    refine ⟨?_, ?_, ?_, ?_⟩
    · dsimp only
      omega
    · dsimp only
      omega
    · exact Nat.dvd_mul_left _ _
    · intro ms' t' ht'
      obtain ⟨-, rfl⟩ := Instant.ofMillis_eq_some.mp ht'
      rw [Int64.lt_iff_toInt_lt, Instant.Precedes]
      dsimp only
      omega
  · intro hnone
    have hdisplay : (Created.millis ms).display = toString ms.toInt := by
      rw [Created.display, hnone]
    exact ⟨hdisplay, by rw [hdisplay, Decimal.int64_repr]⟩

end Postbox
