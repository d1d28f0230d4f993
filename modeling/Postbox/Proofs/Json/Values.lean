import Postbox.Proofs.Json.Tokens

/-! # Values — the tokens of a value make it up again

    The reader of tokens keeps the open containers on a stack.  The tokens of a
    value, read where a value may begin, leave the stack as it was and the value
    on top of it (`run_tokens`); the induction is on the value, with its elements
    and members beside it, and the stack is arbitrary.

    A number is the one token that could run into the next.  It does not, because
    the reader takes no token behind a value but a comma and an end: glyphs that
    spell what it takes are cut into these tokens (`Assembly.lex_of_spells`).  Both
    together read a value from every text that spells it (`read_spelled`), and so
    from its own (`read_write`). -/

namespace Postbox.Json

/-! ## From tokens to a value -/

/-- A value may begin where this is expected. -/
def Expected.TakesValue (e : Expected) : Prop := e = .value ∨ e = .elementOrEnd

/-- A member may begin where this is expected. -/
def Expected.TakesKey (e : Expected) : Prop := e = .key ∨ e = .memberOrEnd

namespace Assembly

/-- Reads some tokens. -/
def run (a : Assembly) (ts : List Token) : Option Assembly := ts.foldlM step a

/-- Tokens are read one after the other. -/
theorem run_cons (a : Assembly) (t : Token) (ts : List Token) :
    a.run (t :: ts) = (a.step t).bind fun b => b.run ts :=
  List.foldlM_cons

/-- Where a value may begin, a token other than the end of an array begins one. -/
theorem step_value {e : Expected} (he : e.TakesValue) (frames : List Frame) {t : Token}
    (ht : t ≠ .closeArray) : step ⟨frames, e⟩ t = value frames t := by
  rcases he with rfl | rfl
  · rfl
  · cases t with
    | closeArray => exact absurd rfl ht
    | _ => cases frames with
      | nil => rfl
      | cons f _ => cases f <;> rfl

/-- Where a member may begin, a text is its key. -/
theorem step_key {e : Expected} (he : e.TakesKey) (before : List (Glyphs × Json))
    (frames : List Frame) (k : Glyphs) :
    step ⟨.object before :: frames, e⟩ (.text k)
      = some ⟨.object before :: frames, .colon k⟩ := by
  rcases he with rfl | rfl
  · rfl
  · rfl

end Assembly

open Assembly in
mutual

/-- **The tokens of a value make it up**, on top of any stack. -/
theorem run_tokens : ∀ (v : Json) {e : Expected}, e.TakesValue → ∀ (frames : List Frame)
    (rest : List Token), (Assembly.mk frames e).run (v.tokens ++ rest)
      = (Assembly.mk frames (.afterValue v)).run rest
  | .null, _, he, frames, rest => by
      rw [tokens, List.cons_append, run_cons, step_value he frames (by decide)]
      rfl
  | .bool b, _, he, frames, rest => by
      rw [tokens, List.cons_append, run_cons, step_value he frames (by simp)]
      rfl
  | .number n, _, he, frames, rest => by
      rw [tokens, List.cons_append, run_cons, step_value he frames (by simp)]
      rfl
  | .text g, _, he, frames, rest => by
      rw [tokens, List.cons_append, run_cons, step_value he frames (by simp)]
      rfl
  | .array vs, _, he, frames, rest => by
      rw [tokens, List.cons_append, run_cons, step_value he frames (by decide)]
      exact run_elements vs [] (Or.inr ⟨rfl, rfl⟩) frames rest
  | .object ms, _, he, frames, rest => by
      rw [tokens, List.cons_append, run_cons, step_value he frames (by decide)]
      exact run_members ms [] (Or.inr ⟨rfl, rfl⟩) frames rest

/-- The tokens of the elements of an array, of which some have been read. -/
theorem run_elements : ∀ (vs before : List Json) {e : Expected},
    e = .value ∧ vs ≠ [] ∨ e = .elementOrEnd ∧ before = [] → ∀ (frames : List Frame)
    (rest : List Token), (Assembly.mk (.array before :: frames) e).run (elementTokens vs ++ rest)
      = (Assembly.mk frames (.afterValue (.array (before.reverse ++ vs)))).run rest
  | [], before, _, he, frames, rest => by
      rcases he with ⟨-, hne⟩ | ⟨rfl, rfl⟩
      · exact absurd rfl hne
      · rfl
  | [v], before, e, he, frames, rest => by
      have hv : e.TakesValue := he.imp And.left And.left
      rw [elementTokens, List.append_assoc, run_tokens v hv, List.cons_append, run_cons]
      show (Assembly.mk frames (.afterValue (.array (v :: before).reverse))).run rest = _
      rw [List.reverse_cons]
  | v :: w :: vs, before, e, he, frames, rest => by
      have hv : e.TakesValue := he.imp And.left And.left
      rw [elementTokens, List.append_assoc, run_tokens v hv, List.cons_append, run_cons]
      show (Assembly.mk (.array (v :: before) :: frames) .value).run _ = _
      rw [run_elements (w :: vs) (v :: before) (Or.inl ⟨rfl, List.cons_ne_nil _ _⟩),
        List.reverse_cons, List.append_assoc]
      rfl

/-- The tokens of the members of an object, of which some have been read. -/
theorem run_members : ∀ (ms before : List (Glyphs × Json)) {e : Expected},
    e = .key ∧ ms ≠ [] ∨ e = .memberOrEnd ∧ before = [] → ∀ (frames : List Frame)
    (rest : List Token), (Assembly.mk (.object before :: frames) e).run (memberTokens ms ++ rest)
      = (Assembly.mk frames (.afterValue (.object (before.reverse ++ ms)))).run rest
  | [], before, _, he, frames, rest => by
      rcases he with ⟨-, hne⟩ | ⟨rfl, rfl⟩
      · exact absurd rfl hne
      · rfl
  | [(k, v)], before, e, he, frames, rest => by
      have hk : e.TakesKey := he.imp And.left And.left
      rw [memberTokens, List.cons_append, run_cons, step_key hk]
      -- behind the name its value is read, by the induction on values
      show (Assembly.mk (.member before k :: frames) .value).run
        (v.tokens ++ [.closeObject] ++ rest) = _
      rw [List.append_assoc, run_tokens v (Or.inl rfl), List.cons_append, run_cons]
      show (Assembly.mk frames (.afterValue (.object ((k, v) :: before).reverse))).run rest = _
      rw [List.reverse_cons]
  | (k, v) :: m :: ms, before, e, he, frames, rest => by
      have hk : e.TakesKey := he.imp And.left And.left
      rw [memberTokens, List.cons_append, run_cons, step_key hk]
      show (Assembly.mk (.member before k :: frames) .value).run
        (v.tokens ++ .comma :: memberTokens (m :: ms) ++ rest) = _
      rw [List.append_assoc, run_tokens v (Or.inl rfl), List.cons_append, run_cons]
      show (Assembly.mk (.object ((k, v) :: before) :: frames) .key).run _ = _
      rw [run_members (m :: ms) ((k, v) :: before) (Or.inl ⟨rfl, List.cons_ne_nil _ _⟩),
        List.reverse_cons, List.append_assoc]
      rfl

end

/-- A value is made up of its tokens. -/
theorem assemble_tokens (v : Json) : assemble v.tokens = some v := by
  have h := run_tokens v (Or.inl rfl) [] []
  rw [List.append_nil] at h
  show (Assembly.run {} v.tokens).bind _ = _
  rw [h]
  rfl

/-! ## From a value to its text -/

namespace Assembly

/-- Behind a number the reader expects what follows a value. -/
theorem expected_of_number {a b : Assembly} {n : Number} (h : a.step (.number n) = some b) :
    b.expected = .afterValue (.number n) := by
  obtain ⟨frames, e⟩ := a
  cases e with
  | value => rw [← Option.some.inj h]
  | elementOrEnd =>
      rw [step_value (Or.inr rfl) frames (by simp)] at h
      rw [← Option.some.inj h]
  | memberOrEnd => cases frames with
    | nil => exact nomatch h
    | cons f frames => cases f <;> exact nomatch h
  | key => exact nomatch h
  | colon k => cases frames with
    | nil => exact nomatch h
    | cons f frames => cases f <;> exact nomatch h
  | afterValue v => cases frames with
    | nil => exact nomatch h
    | cons f frames => cases f <;> exact nomatch h

/-- What the reader takes behind a value is a comma or an end. -/
theorem closes_of_next {v : Json} {frames : List Frame} {t : Token} {b : Assembly}
    (h : next v frames t = some b) : t = .comma ∨ t = .closeArray ∨ t = .closeObject := by
  unfold next at h
  split at h
  · exact Or.inl rfl
  · exact Or.inr (Or.inl rfl)
  · exact Or.inl rfl
  · exact Or.inr (Or.inr rfl)
  · exact nomatch h

/-- What spells tokens that are taken behind a value ends a number. -/
theorem endsNumber_of_run {a b : Assembly} {v : Json} (ha : a.expected = .afterValue v)
    {s : Glyphs} {ts : List Token} (hs : Spells s ts) (h : a.run ts = some b) :
    EndsNumber s := by
  obtain ⟨frames, e⟩ := a
  obtain rfl : e = .afterValue v := ha
  cases hs with
  | nil => exact trivial
  | blank hg _ =>
      simp only [isSpace, Bool.or_eq_true, beq_iff_eq] at hg
      rcases hg with ((rfl | rfl) | rfl) | rfl <;>
        exact ⟨by decide, by decide, by decide, by decide⟩
  | token ht _ =>
      rw [run_cons] at h
      obtain ⟨c, hstep, -⟩ := Option.bind_eq_some_iff.mp h
      have hnext : next v frames _ = some c := hstep
      rcases closes_of_next hnext with rfl | rfl | rfl <;> cases ht <;>
        exact ⟨by decide, by decide, by decide, by decide⟩

/-- **What the reader takes is cut into the tokens that it spells.** -/
theorem lex_of_spells {s : Glyphs} {ts : List Token} (hs : Spells s ts) {a b : Assembly}
    (h : a.run ts = some b) : lex s = some ts := by
  induction hs generalizing a with
  | nil => rw [lex]
  | blank hg _ ih => rw [lex_blank hg, ih h]
  | @token t w s ts ht hs ih =>
      rw [run_cons] at h
      obtain ⟨c, hstep, hrun⟩ := Option.bind_eq_some_iff.mp h
      -- only a number has to see what comes next
      have hend : t.EndsAt s := by
        cases t with
        | number n => exact endsNumber_of_run (expected_of_number hstep) hs hrun
        | _ => exact trivial
      rw [lex_token ht hend, ih hrun]
      rfl

end Assembly

/-- A text spells a value: its tokens in any of their spellings, with blanks at any
    places between them. -/
def SpelledBy (s : String) (v : Json) : Prop := Spells (Glyphs.ofString s) v.tokens

theorem lex_spelled {s : String} {v : Json} (h : v.SpelledBy s) :
    lex (Glyphs.ofString s) = some v.tokens := by
  have hrun := run_tokens v (Or.inl rfl) [] []
  rw [List.append_nil] at hrun
  exact Assembly.lex_of_spells h hrun

/-- **A value is read from every text that spells it.** -/
theorem read_spelled {s : String} {v : Json} (h : v.SpelledBy s) :
    read? (Glyphs.ofString s) = some v := by
  rw [read?, lex_spelled h]
  exact assemble_tokens v

theorem spelled_write {v : Json} (hp : ∀ t ∈ v.tokens, t.IsProper) : v.SpelledBy v.write := by
  rw [SpelledBy, Glyphs.ofString, write, String.toList_ofList]
  exact spells_write hp

/-- The text of a value is cut into its tokens. -/
theorem lex_write (v : Json) (hp : ∀ t ∈ v.tokens, t.IsProper) :
    lex (Glyphs.ofString v.write) = some v.tokens :=
  lex_spelled (spelled_write hp)

/-- **A value is read back from its text.** -/
theorem read_write (v : Json) (hp : ∀ t ∈ v.tokens, t.IsProper) :
    read? (Glyphs.ofString v.write) = some v :=
  read_spelled (spelled_write hp)

/-! ## Nesting -/

mutual

/-- The largest number of containers of a value that lie within each other. -/
def depth : Json → Nat
  | .null => 0
  | .bool _ => 0
  | .number _ => 0
  | .text _ => 0
  | .array vs => elementsDepth vs + 1
  | .object ms => membersDepth ms + 1

/-- The depth of the deepest element. -/
def elementsDepth : List Json → Nat
  | [] => 0
  | v :: vs => max v.depth (elementsDepth vs)

/-- The depth of the deepest member. -/
def membersDepth : List (Glyphs × Json) → Nat
  | [] => 0
  | (_, v) :: ms => max v.depth (membersDepth ms)

end

mutual

/-- The tokens of a value open as many containers as it is deep, and close them. -/
theorem nest_tokens : ∀ (v : Json) {deepest now : Nat}, now ≤ deepest → ∀ rest : List Token,
    (v.tokens ++ rest).foldl Token.nest (deepest, now)
      = rest.foldl Token.nest (max deepest (now + v.depth), now)
  | .null, _, _, h, rest => by rw [depth, Nat.add_zero, Nat.max_eq_left h]; rfl
  | .bool _, _, _, h, rest => by rw [depth, Nat.add_zero, Nat.max_eq_left h]; rfl
  | .number _, _, _, h, rest => by rw [depth, Nat.add_zero, Nat.max_eq_left h]; rfl
  | .text _, _, _, h, rest => by rw [depth, Nat.add_zero, Nat.max_eq_left h]; rfl
  | .array vs, deepest, now, h, rest => by
      rw [tokens, List.cons_append, List.foldl_cons]
      show (elementTokens vs ++ rest).foldl Token.nest (max deepest (now + 1), now + 1) = _
      rw [nest_elements vs (by omega), depth]
      congr 2
      omega
  | .object ms, deepest, now, h, rest => by
      rw [tokens, List.cons_append, List.foldl_cons]
      show (memberTokens ms ++ rest).foldl Token.nest (max deepest (now + 1), now + 1) = _
      rw [nest_members ms (by omega), depth]
      congr 2
      omega

/-- The tokens of elements, with the end of their array. -/
theorem nest_elements : ∀ (vs : List Json) {deepest now : Nat}, now + 1 ≤ deepest →
    ∀ rest : List Token, (elementTokens vs ++ rest).foldl Token.nest (deepest, now + 1)
      = rest.foldl Token.nest (max deepest (now + 1 + elementsDepth vs), now)
  | [], _, _, h, rest => by rw [elementsDepth, Nat.add_zero, Nat.max_eq_left h]; rfl
  | [v], deepest, now, h, rest => by
      rw [elementTokens, List.append_assoc, nest_tokens v h, elementsDepth, elementsDepth,
        Nat.max_eq_left (Nat.zero_le _)]
      rfl
  | v :: w :: vs, deepest, now, h, rest => by
      rw [elementTokens, List.append_assoc, nest_tokens v h, elementsDepth]
      show (elementTokens (w :: vs) ++ rest).foldl Token.nest
        (max deepest (now + 1 + v.depth), now + 1) = _
      rw [nest_elements (w :: vs) (by omega)]
      congr 2
      omega

/-- The tokens of members, with the end of their object. -/
theorem nest_members : ∀ (ms : List (Glyphs × Json)) {deepest now : Nat}, now + 1 ≤ deepest →
    ∀ rest : List Token, (memberTokens ms ++ rest).foldl Token.nest (deepest, now + 1)
      = rest.foldl Token.nest (max deepest (now + 1 + membersDepth ms), now)
  | [], _, _, h, rest => by rw [membersDepth, Nat.add_zero, Nat.max_eq_left h]; rfl
  | [(k, v)], deepest, now, h, rest => by
      rw [memberTokens, List.cons_append, List.cons_append, List.foldl_cons, List.foldl_cons]
      show (v.tokens ++ [Token.closeObject] ++ rest).foldl Token.nest (deepest, now + 1) = _
      rw [List.append_assoc, nest_tokens v h, membersDepth, membersDepth,
        Nat.max_eq_left (Nat.zero_le _)]
      rfl
  | (k, v) :: m :: ms, deepest, now, h, rest => by
      rw [memberTokens, List.cons_append, List.cons_append, List.foldl_cons, List.foldl_cons]
      show (v.tokens ++ Token.comma :: memberTokens (m :: ms) ++ rest).foldl Token.nest
        (deepest, now + 1) = _
      rw [List.append_assoc, nest_tokens v h, membersDepth]
      show (memberTokens (m :: ms) ++ rest).foldl Token.nest
        (max deepest (now + 1 + v.depth), now + 1) = _
      rw [nest_members (m :: ms) (by omega)]
      congr 2
      omega

end

/-- **The nesting of the tokens of a value is its depth.** -/
theorem nesting_tokens (v : Json) : nesting v.tokens = v.depth := by
  have h := nest_tokens v (Nat.le_refl 0) []
  rw [List.append_nil] at h
  rw [nesting, h]
  show max 0 (0 + v.depth) = v.depth
  omega

end Postbox.Json
