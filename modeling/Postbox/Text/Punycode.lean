import Postbox.Text

/-!
# Punycode — any text in letters, digits and hyphens

  The ASCII characters of a text come first, and behind a hyphen a number for each of the others.
  A decoder counts through pairs of a code point and a position, in their order, and each number
  says how many pairs to pass over until the next insertion. Numbers are written in base 36, the
  lowest digit first; which digits end a number depends on a `bias`, which follows the size of the
  numbers so far (`adapt`).
-/

namespace Postbox.Text.Punycode

/-- The first code point that is not written as itself. -/
def firstCode : Nat := 128

/-- The bias before the first number. -/
def firstBias : Nat := 72

/-- A digit as a letter or, from 26 up, as a decimal digit. -/
def digitChar (d : Nat) : Char := Char.ofNat (if d < 26 then 97 + d else 22 + d)

/-- The value of a digit; a letter may be of either case. -/
def digit? (c : Char) : Option Nat :=
  if c.isDigit then some (c.toNat - 22)
  else if c.isAlpha then some (c.toLower.toNat - 97)
  else none

/-- A digit below this ends a number. `k` is 36 for its lowest digit and grows by 36. -/
def threshold (bias k : Nat) : Nat := max 1 (min 26 (k - bias))

/-- The bias for a number of the size `delta`, to which `k` is added. -/
def biasFor (k delta : Nat) : Nat :=
  if delta > 455 then biasFor (k + 36) (delta / 35) else k + 36 * delta / (delta + 38)

/-- The bias behind the number `delta`, by which a text has grown to `count` characters. -/
def adapt (delta count : Nat) (isFirst : Bool) : Nat :=
  let delta := if isFirst then delta / 700 else delta / 2
  biasFor 0 (delta + delta / count)

/-! ## Writing -/

/-- The digits of a number. -/
def writeNumber (bias k n : Nat) : List Char :=
  let t := threshold bias k
  if n < t then [digitChar n]
  else digitChar (t + (n - t) % (36 - t)) :: writeNumber bias (k + 36) ((n - t) / (36 - t))
termination_by n
decreasing_by
  have := Nat.div_le_self (n - threshold bias k) (36 - threshold bias k)
  have : 1 ≤ threshold bias k := Nat.le_max_left 1 _
  omega

/-- How far the writing has come: the characters handled so far, the pairs passed over since the
    last insertion, the bias, and what is written. -/
structure Progress where
  handled : Nat
  passed  : Nat := 0
  bias    : Nat := firstBias
  written : List Char := []

/-- Passes over a character of the text while the code point `code` is being inserted. -/
def Progress.pass (ascii code : Nat) (p : Progress) (c : Char) : Progress :=
  if c.toNat < code then { p with passed := p.passed + 1 }
  else if c.toNat = code then
    { handled := p.handled + 1
      passed  := 0
      bias    := adapt p.passed (p.handled + 1) (p.handled == ascii)
      written := p.written ++ writeNumber p.bias 36 p.passed }
  else p

/-- Inserts the given code points, of which all below `next` have been inserted. -/
def insertCodes (text : List Char) (ascii next : Nat) : List Nat → Progress → Progress
  | [], p            => p
  | code :: later, p =>
    let p := { p with passed := p.passed + (code - next) * (p.handled + 1) }
    let p := text.foldl (Progress.pass ascii code) p
    insertCodes text ascii (code + 1) later { p with passed := p.passed + 1 }

/-- The code points of a text that are not written as themselves, each once and in their order. -/
def codes (text : List Char) : List Nat :=
  ((text.map Char.toNat).filter (firstCode ≤ ·)).mergeSort.eraseDups

/-- The written form of a text. -/
def encode (text : List Char) : List Char :=
  let ascii := text.filter (·.toNat < firstCode)
  let p := insertCodes text ascii.length firstCode (codes text) { handled := ascii.length }
  (if ascii.isEmpty then [] else ascii ++ ['-']) ++ p.written

/-! ## Reading -/

/-- The number in front, and what follows it. -/
def number? (bias k : Nat) : List Char → Option (Nat × List Char)
  | []        => none
  | c :: rest => do
    let d ← digit? c
    let t := threshold bias k
    if d < t then some (d, rest)
    else
      let (higher, rest) ← number? bias (k + 36) rest
      return (d + (36 - t) * higher, rest)

/-- The text that numbers make of another by insertions. The next one is of the code point `code` at
    `position`, unless pairs are passed over. -/
def insertAll (bias code position : Nat) (text cs : List Char) : Option (List Char) := do
  if cs.isEmpty then return text
  let (delta, rest) ← number? bias 36 cs
  let count := text.length + 1
  let code := code + (position + delta) / count
  let place := (position + delta) % count
  let c ← character? code
  if rest.length < cs.length then
    insertAll (adapt delta count (position == 0)) code (place + 1) (text.insertIdx place c) rest
  else none
termination_by cs.length

/-- The text before the last hyphen and the text behind it; all is behind it where there is none. -/
def splitAtHyphen (cs : List Char) : List Char × List Char :=
  let numbers := (cs.reverse.takeWhile (· != '-')).reverse
  (cs.take (cs.length - numbers.length - 1), numbers)

/-- The text that a written form stands for. -/
def decode? (cs : List Char) : Option (List Char) :=
  let (ascii, numbers) := splitAtHyphen cs
  if ascii.all (·.toNat < firstCode) then insertAll firstBias firstCode 0 ascii numbers else none

end Postbox.Text.Punycode
