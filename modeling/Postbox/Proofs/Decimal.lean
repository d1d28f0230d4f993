import Postbox.Proofs.Record

/-! # Decimal — numbers are read back from their digits

    What is read as a number is what denotes one: digits of ASCII, at least one, perhaps with a
    sign in front (`int_eq_some`), and as a word if it lies in the range of words
    (`int64_eq_some`).  The digits in which a number is written denote it (`int64_repr`). -/

namespace Postbox.Decimal

/-! ## Written numbers -/

/-- The digits of a number are read as the number. -/
theorem nat_toDigits (n : Nat) : nat? (Nat.toDigits 10 n) = some n := by
  have hsome : (Nat.toDigits 10 n).isEmpty = false :=
    List.isEmpty_eq_false_iff.mpr Nat.toDigits_ne_nil
  have hdigits : (Nat.toDigits 10 n).all Char.isDigit = true :=
    List.all_eq_true.mpr (Json.isDigit_toDigits n)
  rw [nat?, hsome, hdigits, if_neg (by decide), Nat.ofDigitChars_ten_toDigits]

/-- Digits without a sign are read as they are. -/
theorem int_digits {cs : List Char} (h : ∀ c ∈ cs, c.isDigit = true) :
    int? cs = (nat? cs).map Int.ofNat := by
  unfold int?
  split
  · exact absurd (h '-' List.mem_cons_self) (by decide)
  · exact absurd (h '+' List.mem_cons_self) (by decide)
  · rfl

/-- A whole number is read back from its text. -/
theorem int_repr (i : Int) : int? (toString i).toList = some i := by
  cases i with
  | ofNat n =>
      show int? (Nat.repr n).toList = _
      rw [Nat.toList_repr, int_digits (Json.isDigit_toDigits n), nat_toDigits]
      rfl
  | negSucc n =>
      show int? ("-" ++ Nat.repr (n + 1)).toList = _
      rw [String.toList_append, Nat.toList_repr]
      show (nat? (Nat.toDigits 10 (n + 1))).map (fun m => -(m : Int)) = _
      rw [nat_toDigits]
      rfl

/-- **A word is read back from its text.** -/
theorem int64_repr (w : Int64) : int64? (toString w.toInt).toList = some w := by
  rw [int64?, int_repr]
  exact Json.word_toInt w

/-- The characters of a whole number: digits, and a sign. -/
theorem mem_repr {i : Int} {c : Char} (h : c ∈ (toString i).toList) :
    c = '-' ∨ c.isDigit = true := by
  cases i with
  | ofNat n =>
      rw [show toString (Int.ofNat n) = Nat.repr n from rfl, Nat.toList_repr] at h
      exact Or.inr (Json.isDigit_toDigits n c h)
  | negSucc n =>
      rw [show toString (Int.negSucc n) = "-" ++ Nat.repr (n + 1) from rfl,
        String.toList_append, Nat.toList_repr] at h
      rcases List.mem_append.mp h with h | h
      · exact Or.inl (List.mem_singleton.mp h)
      · exact Or.inr (Json.isDigit_toDigits (n + 1) c h)

/-! ## Signed numbers -/

/-- Digits of ASCII, at least one, with an optional sign in front, and the number that they
    denote. -/
inductive Denotes : List Char → Int → Prop
  | unsigned {ds : List Char} (some : ds ≠ []) (digits : ∀ d ∈ ds, d.isDigit = true) :
      Denotes ds (Nat.ofDigitChars 10 ds 0)
  | plus {ds : List Char} (some : ds ≠ []) (digits : ∀ d ∈ ds, d.isDigit = true) :
      Denotes ('+' :: ds) (Nat.ofDigitChars 10 ds 0)
  | minus {ds : List Char} (some : ds ≠ []) (digits : ∀ d ∈ ds, d.isDigit = true) :
      Denotes ('-' :: ds) (-(Nat.ofDigitChars 10 ds 0 : Nat))

/-- Digits are read as the number that they denote, and nothing else is. -/
theorem nat_eq_some {cs : List Char} {n : Nat} :
    nat? cs = some n ↔ cs ≠ [] ∧ (∀ c ∈ cs, c.isDigit = true) ∧ n = Nat.ofDigitChars 10 cs 0 := by
  rw [nat?, Option.ite_none_left_eq_some, Bool.or_eq_true, not_or, List.isEmpty_iff,
    Bool.not_eq_true', Bool.not_eq_false, List.all_eq_true, Option.some_inj, and_assoc,
    @eq_comm Nat n]

/-- Behind a plus sign stands the number. -/
theorem int_plus (ds : List Char) : int? ('+' :: ds) = (nat? ds).map Int.ofNat := rfl

/-- Behind a minus sign stands what the number is taken from zero. -/
theorem int_minus (ds : List Char) :
    int? ('-' :: ds) = (nat? ds).map fun n : Nat => -(n : Int) := by
  rw [int?]
  cases nat? ds with
  | none => rfl
  | some n => rfl

/-- **Digits with an optional sign are read as the number that they denote**, and nothing else
    is. -/
theorem int_eq_some {cs : List Char} {n : Int} : int? cs = some n ↔ Denotes cs n := by
  constructor
  · intro h
    unfold int? at h
    split at h
    · rename_i ds
      obtain ⟨m, hm, rfl⟩ := Option.map_eq_some_iff.mp ((int_minus ds).symm.trans h)
      obtain ⟨hsome, hdigits, rfl⟩ := nat_eq_some.mp hm
      exact .minus hsome hdigits
    · obtain ⟨m, hm, rfl⟩ := Option.map_eq_some_iff.mp h
      obtain ⟨hsome, hdigits, rfl⟩ := nat_eq_some.mp hm
      exact .plus hsome hdigits
    · obtain ⟨m, hm, rfl⟩ := Option.map_eq_some_iff.mp h
      obtain ⟨hsome, hdigits, rfl⟩ := nat_eq_some.mp hm
      exact .unsigned hsome hdigits
  · rintro (⟨hsome, hdigits⟩ | ⟨hsome, hdigits⟩ | ⟨hsome, hdigits⟩)
    · rw [int_digits hdigits, nat_eq_some.mpr ⟨hsome, hdigits, rfl⟩]
      rfl
    · rw [int_plus, nat_eq_some.mpr ⟨hsome, hdigits, rfl⟩]
      rfl
    · rw [int_minus, nat_eq_some.mpr ⟨hsome, hdigits, rfl⟩]
      rfl

/-- The numbers that a word of 64 bits can hold, from -2⁶³ up to but not including 2⁶³. -/
def InRange (n : Int) : Prop := -0x8000000000000000 ≤ n ∧ n < 0x8000000000000000

/-- A number in the range is the value of a word. -/
theorem toInt_ofInt {n : Int} (h : InRange n) : (Int64.ofInt n).toInt = n := by
  obtain ⟨hlow, hhigh⟩ := h
  exact Int64.toInt_ofInt_of_le (by omega) (by omega)

/-- A number that is in the range of words is held by one, and words hold no other numbers. -/
theorem word_eq_some {n : Int} {w : Int64} : word? n = some w ↔ InRange n ∧ w.toInt = n := by
  constructor
  · intro h
    obtain ⟨⟨hlow, hhigh⟩, hw⟩ := Option.ite_none_right_eq_some.mp h
    have hrange : InRange n := ⟨hlow, Int.lt_add_one_of_le hhigh⟩
    refine ⟨hrange, ?_⟩
    rw [← Option.some.inj hw]
    exact toInt_ofInt hrange
  · rintro ⟨-, rfl⟩
    exact Json.word_toInt w

/-- **A text is read as a word** if it denotes a number in the range of words. -/
theorem int64_eq_some {cs : List Char} {w : Int64} :
    int64? cs = some w ↔ ∃ n, Denotes cs n ∧ InRange n ∧ w.toInt = n := by
  rw [int64?, Option.bind_eq_some_iff]
  simp only [int_eq_some, word_eq_some]

/-- A text is read as no word if it denotes no number in the range of words. -/
theorem int64_eq_none {cs : List Char} :
    int64? cs = none ↔ ¬ ∃ n, Denotes cs n ∧ InRange n := by
  rw [Option.eq_none_iff_forall_ne_some]
  constructor
  · rintro h ⟨n, hn, hrange⟩
    exact h _ (int64_eq_some.mpr ⟨n, hn, hrange, toInt_ofInt hrange⟩)
  · rintro h w hw
    obtain ⟨n, hn, hrange, -⟩ := int64_eq_some.mp hw
    exact h ⟨n, hn, hrange⟩

end Postbox.Decimal
