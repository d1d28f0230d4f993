import Postbox.Json

/-!
# Json reading — from glyphs to tokens, from tokens to a value

  Reading has two stages. `lex` cuts a text into tokens; each step hands on a shorter rest, so it
  ends. `assemble` runs a pushdown machine over the tokens: `Assembly` holds the containers that
  are open, innermost first, and what may come next. The machine reads one token at a time, so the
  depth of a document is limited by nothing but its length.
-/

namespace Postbox.Json

/-! ## Tokens -/

/-- The number four hexadecimal digits in front denote, and what follows them. -/
def hex4? : Glyphs → Option (Nat × Glyphs)
  | some a :: some b :: some c :: some d :: rest => do
    let a ← Hex.digit? a
    let b ← Hex.digit? b
    let c ← Hex.digit? c
    let d ← Hex.digit? d
    return (((a * 16 + b) * 16 + c) * 16 + d, rest)
  | _ => none

/-- The low half of a surrogate pair written as an escape in front, and what follows it. -/
def lowHalf? : Glyphs → Option (Nat × Glyphs)
  | some '\\' :: some 'u' :: rest => (hex4? rest).filter fun (n, _) => 0xDC00 ≤ n && n < 0xE000
  | _ => none

/-- The glyph that the escape after a backslash stands for, and what follows the escape. Two halves
    of a surrogate pair are one character; a half alone is none. -/
def unescape? : Glyphs → Option (Option Char × Glyphs)
  | some '"' :: rest  => some (some '"', rest)
  | some '\\' :: rest => some (some '\\', rest)
  | some '/' :: rest  => some (some '/', rest)
  | some 'b' :: rest  => some (some '\x08', rest)
  | some 'f' :: rest  => some (some '\x0c', rest)
  | some 'n' :: rest  => some (some '\n', rest)
  | some 'r' :: rest  => some (some '\r', rest)
  | some 't' :: rest  => some (some '\t', rest)
  | some 'u' :: rest  =>
    match hex4? rest with
    | none => none
    | some (n, rest) =>
      if 0xD800 ≤ n ∧ n < 0xDC00 then
        match lowHalf? rest with
        | some (low, rest) =>
          some (some (Char.ofNat (0x10000 + (n - 0xD800) * 1024 + (low - 0xDC00))), rest)
        | none             => some (none, rest)
      else if 0xDC00 ≤ n ∧ n < 0xE000 then some (none, rest)
      else some (some (Char.ofNat n), rest)
  | _ => none

theorem hex4?_length {s rest : Glyphs} {n : Nat} (h : hex4? s = some (n, rest)) :
    rest.length < s.length := by
  unfold hex4? at h
  split at h
  · simp only [Option.bind_eq_bind, Option.bind_eq_some_iff, Option.pure_def, Option.some.injEq,
      Prod.mk.injEq] at h
    obtain ⟨_, _, _, _, _, _, _, _, _, rfl⟩ := h
    simp only [List.length_cons]
    omega
  · simp at h

theorem lowHalf?_length {s rest : Glyphs} {n : Nat} (h : lowHalf? s = some (n, rest)) :
    rest.length < s.length := by
  unfold lowHalf? at h
  split at h
  · have := hex4?_length (Option.filter_eq_some_iff.1 h).1
    simp only [List.length_cons]
    omega
  · simp at h

/-- An escape is at least one glyph long. -/
theorem unescape?_length {s rest : Glyphs} {g : Option Char} (h : unescape? s = some (g, rest)) :
    rest.length < s.length := by
  unfold unescape? at h
  split at h <;> try (simp only [Option.some.injEq, Prod.mk.injEq] at h; obtain ⟨_, rfl⟩ := h; simp)
  · split at h
    · simp at h
    · rename_i heq
      have hn := hex4?_length heq
      split at h
      · split at h
        · rename_i hl
          have := lowHalf?_length hl
          simp only [Option.some.injEq, Prod.mk.injEq] at h
          obtain ⟨_, rfl⟩ := h
          simp only [List.length_cons]
          omega
        · simp only [Option.some.injEq, Prod.mk.injEq] at h
          obtain ⟨_, rfl⟩ := h
          simp only [List.length_cons]
          omega
      · split at h <;>
        · simp only [Option.some.injEq, Prod.mk.injEq] at h
          obtain ⟨_, rfl⟩ := h
          simp only [List.length_cons]
          omega
  · simp at h

/-- The text up to the closing quote, and what follows the quote. Control characters must be
    written as escapes. -/
def lexText (s : Glyphs) : Option (Glyphs × Glyphs) :=
  match s with
  | []                => none
  | some '"' :: rest  => some ([], rest)
  | some '\\' :: rest =>
    match _h : unescape? rest with
    | none           => none
    | some (g, rest) => (lexText rest).map fun (body, rest) => (g :: body, rest)
  | none :: rest      => (lexText rest).map fun (body, rest) => (none :: body, rest)
  | some c :: rest    =>
    if c.toNat < 0x20 then none
    else (lexText rest).map fun (body, rest) => (some c :: body, rest)
termination_by s.length
decreasing_by
  · have := unescape?_length _h
    simp only [List.length_cons]
    omega
  · simp
  · simp

/-- The run of digits in front, and what follows it. -/
def digits : Glyphs → List Char × Glyphs
  | some c :: rest =>
    if c.isDigit then ((c :: (digits rest).1), (digits rest).2) else ([], some c :: rest)
  | rest => ([], rest)

/-- The digits after a point in front, if one stands there, and what follows them. -/
def fraction? : Glyphs → Option (Option (List Char) × Glyphs)
  | some '.' :: rest =>
    let (ds, rest) := digits rest
    if ds.isEmpty then none else some (some ds, rest)
  | rest => some (none, rest)

/-- The exponent in front, if one stands there, and what follows it. -/
def exponent? : Glyphs → Option (Option Int × Glyphs)
  | some e :: rest =>
    if e == 'e' || e == 'E' then
      let (negative, rest) := match rest with
        | some '-' :: rest => (true, rest)
        | some '+' :: rest => (false, rest)
        | rest             => (false, rest)
      let (ds, rest) := digits rest
      let value := Nat.ofDigitChars 10 ds 0
      if ds.isEmpty then none else some (some (if negative then -(value : Int) else value), rest)
    else some (none, some e :: rest)
  | rest => some (none, rest)

/-- The number in front, and what follows it. Its whole part is a zero or begins with another
    digit. -/
def lexNumber (s : Glyphs) : Option (Number × Glyphs) := do
  let (negative, rest) := match s with
    | some '-' :: rest => (true, rest)
    | rest             => (false, rest)
  let (whole, rest) ← match rest with
    | some '0' :: rest => some (['0'], rest)
    | rest             => some (digits rest)
  let (fraction, rest) ← fraction? rest
  let (exponent, rest) ← exponent? rest
  if whole.isEmpty then none else some (⟨negative, whole, fraction, exponent⟩, rest)

/-- The token in front of a text that is not empty and does not begin with a blank, and what follows
    it. -/
def lexToken (s : Glyphs) : Option (Token × Glyphs) :=
  match s with
  | some '[' :: rest => some (.openArray, rest)
  | some ']' :: rest => some (.closeArray, rest)
  | some '\x7b' :: rest => some (.openObject, rest)
  | some '\x7d' :: rest => some (.closeObject, rest)
  | some ',' :: rest => some (.comma, rest)
  | some ':' :: rest => some (.colon, rest)
  | some 'n' :: some 'u' :: some 'l' :: some 'l' :: rest => some (.null, rest)
  | some 't' :: some 'r' :: some 'u' :: some 'e' :: rest => some (.bool true, rest)
  | some 'f' :: some 'a' :: some 'l' :: some 's' :: some 'e' :: rest => some (.bool false, rest)
  | some '"' :: rest => (lexText rest).map fun (body, rest) => (.text body, rest)
  | s => (lexNumber s).map fun (n, rest) => (.number n, rest)

/-- The four blanks that may stand between tokens. -/
def isSpace (g : Option Char) : Bool :=
  g == some ' ' || g == some '\n' || g == some '\r' || g == some '\t'

/-- The tokens of a text. A rest that does not grow shorter would be a token without characters;
    there is none, so the test only shows that the cutting ends. -/
def lex (s : Glyphs) : Option (List Token) :=
  match s with
  | []        => some []
  | g :: rest =>
    if isSpace g then lex rest
    else
      match lexToken (g :: rest) with
      | none => none
      | some (t, rest') =>
        if rest'.length ≤ rest.length then (lex rest').map (t :: ·) else none
termination_by s.length
decreasing_by all_goals simp only [List.length_cons]; omega

/-! ## Values -/

/-- A container that is open: its parts so far, last first, and within an object the key whose
    value is being read. -/
inductive Frame
  | array (before : List Json)
  | object (before : List (Glyphs × Json))
  | member (before : List (Glyphs × Json)) (key : Glyphs)

/-- What may come next. -/
inductive Expected
  | value
  | elementOrEnd
  | memberOrEnd
  | key
  | colon (key : Glyphs)
  | afterValue (v : Json)

/-- A document that has been read in part. -/
structure Assembly where
  frames   : List Frame := []
  expected : Expected := .value

namespace Assembly

/-- The value a single token stands for. -/
def scalar? : Token → Option Json
  | .null     => some .null
  | .bool b   => some (.bool b)
  | .number n => some (.number n)
  | .text g   => some (.text g)
  | _         => none

/-- Reads the first token of a value. -/
def value (frames : List Frame) : Token → Option Assembly
  | .openArray  => some ⟨.array [] :: frames, .elementOrEnd⟩
  | .openObject => some ⟨.object [] :: frames, .memberOrEnd⟩
  | t           => (scalar? t).map fun v => ⟨frames, .afterValue v⟩

/-- Reads the token that follows a value within a container: a comma or the container's end. -/
def next (v : Json) : List Frame → Token → Option Assembly
  | .array before :: frames, .comma       => some ⟨.array (v :: before) :: frames, .value⟩
  | .array before :: frames, .closeArray  =>
    some ⟨frames, .afterValue (.array (v :: before).reverse)⟩
  | .member before k :: frames, .comma    => some ⟨.object ((k, v) :: before) :: frames, .key⟩
  | .member before k :: frames, .closeObject =>
    some ⟨frames, .afterValue (.object ((k, v) :: before).reverse)⟩
  | _, _ => none

/-- Reads one token. -/
def step (a : Assembly) (t : Token) : Option Assembly :=
  match a.expected, a.frames, t with
  | .value, frames, t                              => value frames t
  | .elementOrEnd, .array _ :: frames, .closeArray => some ⟨frames, .afterValue (.array [])⟩
  | .elementOrEnd, frames, t                       => value frames t
  | .memberOrEnd, .object _ :: frames, .closeObject => some ⟨frames, .afterValue (.object [])⟩
  | .memberOrEnd, frames, .text k                  => some ⟨frames, .colon k⟩
  | .key, frames, .text k                          => some ⟨frames, .colon k⟩
  | .colon k, .object before :: frames, .colon     => some ⟨.member before k :: frames, .value⟩
  | .afterValue v, frames, t                       => next v frames t
  | _, _, _                                        => none

/-- The document that has been read, if it is complete. -/
def result? : Assembly → Option Json
  | ⟨[], .afterValue v⟩ => some v
  | _                   => none

end Assembly

/-- The value that tokens make up. -/
def assemble (ts : List Token) : Option Json :=
  (ts.foldlM Assembly.step {}).bind Assembly.result?

/-- The value a text denotes. -/
def read? (s : Glyphs) : Option Json :=
  (lex s).bind assemble

/-! ## Plain documents -/

/-- Whether a token can be held as it is: a proper text, a finite number. -/
def Token.isPlain : Token → Bool
  | .text g   => g.all Option.isSome
  | .number n => n.isFinite
  | _         => true

/-- The containers open after a token, given those open before it and the most so far. -/
def Token.nest : Nat × Nat → Token → Nat × Nat
  | (deepest, now), .openArray | (deepest, now), .openObject   => (max deepest (now + 1), now + 1)
  | (deepest, now), .closeArray | (deepest, now), .closeObject => (deepest, now - 1)
  | depths, _ => depths

/-- The largest number of containers that are open at once. -/
def nesting (ts : List Token) : Nat := (ts.foldl Token.nest (0, 0)).1

/-- Whether a document can be held as it is: its tokens are plain, and at most 127 containers lie
    within each other. -/
def isPlain (ts : List Token) : Bool :=
  ts.all Token.isPlain && nesting ts ≤ 127

end Postbox.Json
