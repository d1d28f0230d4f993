import Postbox.Hex

/-!
# Runs — properties of characters, by ranges of code points

  A property that differs from script to script is a table: runs of code points, in their order,
  each with a value. Since such a table has hundreds of runs it is written as a text, with one word
  for each run: its first and its last code point in hexadecimal and a hyphen between them, or one
  code point alone, and behind them a note that says what the value is.
-/

namespace Postbox.Text

/-- The code points from `first` to `last`, and what holds for them. -/
structure Run (α : Type) where
  first : Nat
  last  : Nat
  value : α

/-- Runs in the order of their code points. -/
abbrev Runs (α : Type) := Array (Run α)

namespace Runs

variable {α : Type}

/-- The run of a code point, which is looked for from the place `low` on and before `high`. -/
def search (runs : Runs α) (n low high : Nat) : Option (Run α) :=
  if low < high then
    match runs[(low + high) / 2]? with
    | none   => none
    | some r =>
      if n < r.first then search runs n low ((low + high) / 2)
      else if r.last < n then search runs n ((low + high) / 2 + 1) high
      else some r
  else none
termination_by high - low

/-- The run that a character lies in, if there is one. -/
def run? (runs : Runs α) (c : Char) : Option (Run α) := runs.search c.toNat 0 runs.size

/-- The value for a character, if there is a run for it. -/
def value? (runs : Runs α) (c : Char) : Option α := (runs.run? c).map Run.value

/-! ## Reading -/

/-- The hexadecimal digits in front, and what follows them. -/
def digits (cs : List Char) : List Char × List Char :=
  let front := cs.takeWhile fun c => (Hex.digit? c).isSome
  (front, cs.drop front.length)

/-- The run that a word denotes. -/
def ofWord (value : List Char → α) (word : List Char) : Run α :=
  let (first, rest) := digits word
  match rest with
  | '-' :: rest =>
    let (last, note) := digits rest
    ⟨Hex.number first, Hex.number last, value note⟩
  | note => ⟨Hex.number first, Hex.number first, value note⟩

/-- The runs that a text denotes. Blanks and line breaks stand between its words. -/
def ofText (value : List Char → α) (s : String) : Runs α :=
  let words := (s.toList.splitOnP fun c => c == ' ' || c == '\n').filter fun w => !w.isEmpty
  (words.map (ofWord value)).toArray

end Runs

end Postbox.Text
