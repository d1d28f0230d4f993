import Postbox.Decimal

/-!
# Duration — lengths of time and their text

  A length of time is written in the largest of the units s, ms, µs and ns of which it holds at
  least one, with as many decimal places as it needs.
-/

namespace Postbox

/-- A length of time: whole seconds and fewer than 10⁹ nanoseconds. -/
structure Duration where
  secs  : Nat
  nanos : Nat
deriving DecidableEq, Repr

namespace Duration

/-- The length of any number of seconds and nanoseconds. -/
def of (secs nanos : Nat) : Duration := ⟨secs + nanos / 1000000000, nanos % 1000000000⟩

/-- A length of whole seconds. -/
def ofSecs (secs : Nat) : Duration := ⟨secs, 0⟩

/-- `whole` and a fraction of `places` decimal places, without the zeros at its end. -/
def decimalText (whole fraction places : Nat) : String :=
  let padded := (Nat.toDigits 10 fraction).leftpad places '0'
  let digits := (padded.reverse.dropWhile (· == '0')).reverse
  toString whole ++ (if digits.isEmpty then "" else "." ++ String.ofList digits)

/-- The text of a length of time. -/
def display (d : Duration) : String :=
  if d.secs > 0 then decimalText d.secs d.nanos 9 ++ "s"
  else if d.nanos ≥ 1000000 then decimalText (d.nanos / 1000000) (d.nanos % 1000000) 6 ++ "ms"
  else if d.nanos ≥ 1000 then decimalText (d.nanos / 1000) (d.nanos % 1000) 3 ++ "µs"
  else toString d.nanos ++ "ns"

end Duration

end Postbox
