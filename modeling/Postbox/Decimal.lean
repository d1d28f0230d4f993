/-!
# Decimal — numbers in base ten

  Reading and writing of whole numbers as digit texts, with the two widths of machine integers
  that records and settings use, and the test whether a decimal fraction is too large for a
  double-precision number.
-/

namespace Postbox.Decimal

/-- The number a non-empty run of ASCII digits denotes. -/
def nat? (cs : List Char) : Option Nat :=
  if cs.isEmpty || !cs.all Char.isDigit then none else some (Nat.ofDigitChars 10 cs 0)

/-- The number that digits with an optional sign in front denote. -/
def int? : List Char → Option Int
  | '-' :: ds => (nat? ds).map fun n => -(n : Int)
  | '+' :: ds => (nat? ds).map Int.ofNat
  | ds        => (nat? ds).map Int.ofNat

/-- The signed 64-bit word with the value `n`, if there is one. -/
def word? (n : Int) : Option Int64 :=
  if Int64.minValue.toInt ≤ n ∧ n ≤ Int64.maxValue.toInt then some (Int64.ofInt n) else none

/-- The signed 64-bit word that digits with an optional sign denote. -/
def int64? (cs : List Char) : Option Int64 :=
  (int? cs).bind word?

/-- The unsigned 64-bit number that digits with an optional plus sign denote. -/
def nat64? (cs : List Char) : Option Nat :=
  let ds := match cs with
    | '+' :: r => r
    | _        => cs
  (nat? ds).filter (· < UInt64.size)

/-- `n` in at least `width` digits, filled up with zeros on the left. -/
def padded (width n : Nat) : String :=
  String.ofList ((Nat.toDigits 10 n).leftpad width '0')

/-- The least number that a double-precision number cannot hold: it is half a unit of the last
    place above the greatest finite one, and a tie goes to the even neighbour, which is infinity. -/
def doubleLimit : Nat := (1 <<< 54 - 1) <<< 970

/-- Whether `digits · 10 ^ exponent` is too large for a double-precision number.

    A number of more than 310 places is, one of fewer than 300 is not, so no large power is ever
    taken. -/
def overflowsDouble (digits : List Char) (exponent : Int) : Bool :=
  let ds := digits.dropWhile (· == '0')
  let places := (ds.length : Int) + exponent
  if ds.isEmpty || places < 300 then false
  else if places > 310 then true
  else
    let n := Nat.ofDigitChars 10 ds 0
    if exponent < 0 then doubleLimit * Nat.pow 10 exponent.natAbs ≤ n
    else doubleLimit ≤ n * Nat.pow 10 exponent.natAbs

end Postbox.Decimal
