import Postbox.Text
import Postbox.Decimal
import Postbox.Calendar

/-!
# Instant — points of time and their texts

  A point of time is a number of whole seconds since 1970-01-01T00:00:00Z and the nanoseconds
  within the second. Three notations denote one: a count of milliseconds, a date with time and
  offset (`ofRfc3339?`), and a bare date (`ofDateText?`), which stands for its first moment in UTC.
  Of a date and time only as much is displayed as the inbox shows: day, hour and minute.
-/

namespace Postbox

/-- Seconds since 1970-01-01T00:00:00Z, rounded down, and the nanoseconds within the second. A leap
    second is the 59th second of its minute with nanoseconds from 10⁹ up. -/
structure Instant where
  secs  : Int
  nanos : Nat
deriving DecidableEq, Repr

namespace Instant

/-- The seconds of a day. -/
def daySeconds : Int := 86400

/-- The first moment of a day in UTC. -/
def ofDate (d : Date) : Instant := ⟨d.dayNumber * daySeconds, 0⟩

/-- The day in UTC that holds the instant. -/
def date (t : Instant) : Date := Date.ofDayNumber (t.secs / daySeconds)

/-- The instant a number of milliseconds after 1970-01-01T00:00:00Z, if its day lies in the
    calendar's range. -/
def ofMillis? (ms : Int) : Option Instant :=
  let secs := ms / 1000
  let day := secs / daySeconds
  if Date.first.dayNumber ≤ day ∧ day ≤ Date.last.dayNumber
  then some ⟨secs, (ms % 1000).toNat * 1000000⟩
  else none

/-! ## Reading -/

/-- The number written in exactly `n` digits in front, and what follows it. -/
def exactly (n : Nat) (cs : List Char) : Option (Nat × List Char) :=
  if (cs.take n).length = n then (Decimal.nat? (cs.take n)).map (·, cs.drop n) else none

/-- The number written in one to `n` digits in front, as many as there are, and what follows it. -/
def upTo (n : Nat) (cs : List Char) : Option (Nat × List Char) :=
  let ds := (cs.takeWhile Char.isDigit).take n
  (Decimal.nat? ds).map (·, cs.drop ds.length)

/-- Hour and minute as `hh:mm`, hours below 24 and minutes below 60, and what follows. -/
def hourMinute? (cs : List Char) : Option (Nat × Nat × List Char) := do
  let (hour, cs) ← exactly 2 cs
  let ':' :: cs := cs | none
  let (minute, cs) ← exactly 2 cs
  if hour < 24 && minute < 60 then some (hour, minute, cs) else none

/-- The nanoseconds of an optional fraction in front, of which nine digits count, and what follows
    it. -/
def fraction? : List Char → Option (Nat × List Char)
  | '.' :: cs =>
    let ds := cs.takeWhile Char.isDigit
    (Decimal.nat? ((ds.take 9).rightpad 9 '0')).filter (fun _ => !ds.isEmpty)
      |>.map (·, cs.drop ds.length)
  | cs => some (0, cs)

/-- The seconds by which an offset that makes up the whole text is ahead of UTC. -/
def offset? : List Char → Option Int
  | ['Z'] | ['z'] => some 0
  | sign :: cs => do
    let (hour, minute, rest) ← hourMinute? cs
    let seconds : Int := (hour * 60 + minute) * 60
    if !rest.isEmpty then none
    else if sign == '+' then some seconds
    else if sign == '-' || sign == '\u2212' then some (-seconds)
    else none
  | [] => none

/-- The instant denoted by a date, a time and an offset in the notation of RFC 3339.

    The separator of date and time is `T`, `t` or one space, and second 60 is the leap second. -/
def ofRfc3339? (s : String) : Option Instant := do
  let (year, cs) ← exactly 4 s.toList
  let '-' :: cs := cs | none
  let (month, cs) ← exactly 2 cs
  let '-' :: cs := cs | none
  let (day, cs) ← exactly 2 cs
  let separator :: cs := cs | none
  guard (separator == 'T' || separator == 't' || separator == ' ')
  let (hour, minute, cs) ← hourMinute? cs
  let ':' :: cs := cs | none
  let (second, cs) ← exactly 2 cs
  guard (second ≤ 60)
  let (nanos, cs) ← fraction? cs
  let offset ← offset? cs
  let date ← Date.of? year month day
  let time : Int := hour * 3600 + minute * 60 + (min second 59 : Nat)
  return ⟨date.dayNumber * daySeconds + time - offset,
    if second = 60 then nanos + 1000000000 else nanos⟩

/-- The year in front of a bare date: four digits at most, or a sign and any number of digits. -/
def yearField? (cs : List Char) : Option (Int × List Char) :=
  match cs.dropWhile Text.isBlank with
  | '-' :: ds => (upTo ds.length ds).map fun (n, rest) => (-(n : Int), rest)
  | '+' :: ds => (upTo ds.length ds).map fun (n, rest) => ((n : Int), rest)
  | ds        => (upTo 4 ds).map fun (n, rest) => ((n : Int), rest)

/-- Month or day of a bare date: one or two digits. -/
def monthDayField? (cs : List Char) : Option (Nat × List Char) :=
  upTo 2 (cs.dropWhile Text.isBlank)

/-- The first moment of a bare date: year, month and day with hyphens between them. Blanks may
    stand before each of the three. -/
def ofDateText? (s : String) : Option Instant := do
  let (year, cs) ← yearField? s.toList
  let '-' :: cs := cs | none
  let (month, cs) ← monthDayField? cs
  let '-' :: cs := cs | none
  let (day, cs) ← monthDayField? cs
  guard cs.isEmpty
  let date ← Date.of? year month day
  return ofDate date

/-- The instant a text denotes in either notation. -/
def ofText? (s : String) : Option Instant :=
  ofRfc3339? s <|> ofDateText? s

/-! ## Writing -/

/-- A year in four digits; outside of 0 to 9999 with its sign. -/
def yearText (year : Int) : String :=
  let digits := Decimal.padded 4 year.natAbs
  if year < 0 then "-" ++ digits else if year > 9999 then "+" ++ digits else digits

/-- Day, hour and minute of an instant in UTC. -/
def minuteText (t : Instant) : String :=
  let d := t.date
  let minutes := (t.secs % daySeconds / 60).toNat
  yearText d.year ++ "-" ++ Decimal.padded 2 d.month ++ "-" ++ Decimal.padded 2 d.day ++ " " ++
    Decimal.padded 2 (minutes / 60) ++ ":" ++ Decimal.padded 2 (minutes % 60)

end Instant

end Postbox
