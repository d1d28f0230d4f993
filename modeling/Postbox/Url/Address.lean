import Postbox.Decimal
import Postbox.Url.Percent
import Postbox.Url.Problem

/-!
# Numeric addresses — IPv4 and IPv6

  Both notations in all their spellings are read into a number or into eight pieces, and written in
  the one canonical spelling. An IPv4 address has up to four numbers, each decimal, octal (`0`) or
  hexadecimal (`0x`), the last of which fills all remaining bytes. An IPv6 address may leave out one
  run of zero pieces, and may end in an IPv4 address.
-/

namespace Postbox.Url

/-- The number that digits of a base denote; no digits denote zero. -/
def numberInBase? (base : Nat) (cs : List Char) : Option Nat :=
  cs.foldlM (fun n c => (Hex.digit? c).filter (· < base) |>.map (n * base + ·)) 0

/-! ## IPv4 -/

namespace Ipv4

/-- The number in one place of an address. -/
def number? : List Char → Option Nat
  | []                     => none
  | '0' :: 'x' :: ds       => numberInBase? 16 ds
  | '0' :: 'X' :: ds       => numberInBase? 16 ds
  | '0' :: d :: ds         => numberInBase? 8 (d :: ds)
  | ds                     => numberInBase? 10 ds

/-- The places of a host name, of which an empty last one does not count. -/
def places (host : List Char) : List (List Char) :=
  let parts := host.splitOn '.'
  if parts.length > 1 && parts.getLast? == some [] then parts.dropLast else parts

/-- Whether a host name ends in a number, which makes it an address. -/
def endsInNumber (host : List Char) : Bool :=
  match (places host).getLast? with
  | some last => (!last.isEmpty && last.all Char.isDigit) || (number? last).isSome
  | none      => false

/-- The address that a host name denotes. -/
def read? (host : List Char) : Option Nat := do
  let parts := places host
  let numbers ← parts.mapM number?
  let last ← numbers.getLast?
  let first := numbers.dropLast
  let bitsOfLast := 8 * (4 - first.length)
  if parts.length ≤ 4 && first.all (· ≤ 255) && last < 1 <<< bitsOfLast then
    some ((first.foldl (fun n byte => n * 256 + byte) 0 <<< bitsOfLast) + last)
  else none

/-- The canonical spelling: four decimal numbers. -/
def write (n : Nat) : String :=
  ".".intercalate ([24, 16, 8, 0].map fun bit => toString ((n >>> bit) % 256))

end Ipv4

/-! ## IPv6 -/

namespace Ipv6

/-- One of the four numbers of an IPv4 address at the end: decimal, without a leading zero. -/
def byte? (ds : List Char) : Option Nat :=
  if ds.length > 1 && ds.head? == some '0' then none else (Decimal.nat? ds).filter (· ≤ 255)

/-- The pieces that a part between colons stands for: one, or two for an IPv4 address, which may
    only be the last part. -/
def pieces? (isLast : Bool) (part : List Char) : Option (List Nat) :=
  if isLast && part.contains '.' then do
    let [a, b, c, d] ← (part.splitOn '.').mapM byte? | none
    return [a * 256 + b, c * 256 + d]
  else if part.isEmpty || part.length > 4 then none
  else (numberInBase? 16 part).map ([·])

/-- The pieces of a run of parts between colons, which is empty or has no empty part. -/
def run? (isLast : Bool) (cs : List Char) : Option (List Nat) :=
  if cs.isEmpty then some []
  else
    let parts := cs.splitOn ':'
    ((parts.zipIdx 1).mapM fun (part, i) => pieces? (isLast && i == parts.length) part).map
      List.flatten

/-- The text before the first pair of colons and the text behind it. -/
def splitAtGap? : List Char → Option (List Char × List Char)
  | ':' :: ':' :: rest => some ([], rest)
  | c :: rest          => (splitAtGap? rest).map fun (before, behind) => (c :: before, behind)
  | []                 => none

/-- The eight pieces of an address. -/
def read? (cs : List Char) : Option (List Nat) :=
  match splitAtGap? cs with
  | none => (run? true cs).filter fun pieces => pieces.length == 8
  | some (before, behind) => do
    let before ← run? false before
    let behind ← run? true behind
    if before.length + behind.length ≤ 7 then
      some (before ++ List.replicate (8 - before.length - behind.length) 0 ++ behind)
    else none

/-- The length of the run of zeros in front. -/
def zerosInFront (pieces : List Nat) : Nat := (pieces.takeWhile (· == 0)).length

/-- Where the first longest run of zeros begins, and its length. -/
def longestZeros : List Nat → Nat × Nat
  | []                 => (0, 0)
  | pieces@(_ :: rest) =>
    let here := zerosInFront pieces
    let (start, length) := longestZeros rest
    if here ≥ length then (0, here) else (start + 1, length)

/-- Pieces in hexadecimal with colons between them. -/
def writeRun (pieces : List Nat) : String :=
  ":".intercalate (pieces.map fun n => String.ofList (Nat.toDigits 16 n))

/-- The canonical spelling: the first longest run of two or more zeros is left out. -/
def write (pieces : List Nat) : String :=
  let (start, length) := longestZeros pieces
  if length < 2 then writeRun pieces
  else writeRun (pieces.take start) ++ "::" ++ writeRun (pieces.drop (start + length))

end Ipv6

end Postbox.Url
