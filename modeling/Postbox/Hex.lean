/-!
# Hex — hexadecimal digits
-/

namespace Postbox.Hex

/-- The digit of a number below 16 in lower case. -/
def lower (n : Nat) : Char := Nat.digitChar n

/-- The digit of a number below 16 in upper case. -/
def upper (n : Nat) : Char := (Nat.digitChar n).toUpper

/-- The value of a digit of either case. -/
def digit? (c : Char) : Option Nat :=
  if '0' ≤ c ∧ c ≤ '9' then some (c.toNat - 48)
  else if 'a' ≤ c ∧ c ≤ 'f' then some (c.toNat - 87)
  else if 'A' ≤ c ∧ c ≤ 'F' then some (c.toNat - 55)
  else none

/-- The number that digits denote. -/
def number (cs : List Char) : Nat := cs.foldl (fun n c => n * 16 + (digit? c).getD 0) 0

end Postbox.Hex
