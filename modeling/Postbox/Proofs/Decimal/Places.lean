import Postbox.Proofs.Decimal
import Mathlib.Data.String.Basic

/-! # Places — numbers in columns of a fixed width

    A number that fits into a column is written there in as many digits as the column has
    places, with zeros in front (`toList_padded`).  Such digits denote the number again
    (`nat_places`), and since none is left out, they have the order of the numbers: texts that
    begin with columns are compared column by column (`places_append_lt`). -/

namespace Postbox.Decimal

/-- The last digits of a number, as many as a column has places. -/
def places : Nat → Nat → List Char
  | 0, _ => []
  | width + 1, n => places width (n / 10) ++ [(n % 10).digitChar]

theorem length_places (width n : Nat) : (places width n).length = width := by
  induction width generalizing n with
  | zero => rfl
  | succ width ih => rw [places, List.length_append, ih, List.length_singleton]

theorem isDigit_places (width n : Nat) : ∀ c ∈ places width n, c.isDigit = true := by
  induction width generalizing n with
  | zero => exact List.forall_mem_nil _
  | succ width ih =>
      rw [places]
      intro c hc
      rcases List.mem_append.mp hc with hfront | hlast
      · exact ih (n / 10) c hfront
      · rw [List.mem_singleton.mp hlast, Nat.isDigit_digitChar, decide_eq_true_eq]
        exact Nat.mod_lt n (by decide)

theorem places_ne_nil {width : Nat} (hwidth : 0 < width) (n : Nat) : places width n ≠ [] := by
  intro h
  have := length_places width n
  rw [h, List.length_nil] at this
  omega

/-- What begins with places begins with a digit. -/
theorem isDigit_head {width n : Nat} (hwidth : 0 < width) {rest : List Char} {c : Char}
    (h : (places width n ++ rest).head? = some c) : c.isDigit = true := by
  rw [List.head?_append_of_ne_nil _ (places_ne_nil hwidth n)] at h
  exact isDigit_places width n c (List.mem_of_head? h)

/-- Without its last digit a number fits into a place less. -/
theorem div_ten_lt {width n : Nat} (h : n < 10 ^ (width + 1)) : n / 10 < 10 ^ width := by
  rw [Nat.pow_succ] at h
  exact Nat.div_lt_of_lt_mul (by omega)

/-- A number that fits is what its places denote. -/
theorem ofDigitChars_places {width n : Nat} (h : n < 10 ^ width) :
    Nat.ofDigitChars 10 (places width n) 0 = n := by
  induction width generalizing n with
  | zero =>
      rw [Nat.pow_zero, Nat.lt_one_iff] at h
      rw [h]
      rfl
  | succ width ih =>
      rw [places, Nat.ofDigitChars_append, ih (div_ten_lt h),
        Nat.ofDigitChars_cons_digitChar_of_lt_ten (Nat.mod_lt n (by decide)),
        Nat.ofDigitChars_nil]
      omega

/-- **A number that fits is read back from its places.** -/
theorem nat_places {width n : Nat} (hwidth : 0 < width) (h : n < 10 ^ width) :
    nat? (places width n) = some n :=
  nat_eq_some.mpr ⟨places_ne_nil hwidth n, isDigit_places width n, (ofDigitChars_places h).symm⟩

/-- What fills a number up in front is in front of its last digit. -/
theorem leftpad_snoc (width : Nat) (ds : List Char) (d : Char) :
    (ds ++ [d]).leftpad (width + 1) '0' = ds.leftpad width '0' ++ [d] := by
  rw [List.leftpad, List.leftpad, List.length_append, List.length_singleton,
    Nat.add_sub_add_right, List.append_assoc]

/-- Zeros are the places of zero. -/
theorem places_zero (width : Nat) : places width 0 = List.replicate width '0' := by
  induction width with
  | zero => rfl
  | succ width ih =>
      rw [places, Nat.zero_div, ih, List.replicate_succ']
      rfl

/-- **What is filled up with zeros has its places**, as long as the number fits. -/
theorem toList_padded {width n : Nat} (hwidth : 0 < width) (h : n < 10 ^ width) :
    (padded width n).toList = places width n := by
  rw [padded, String.toList_ofList]
  induction width generalizing n with
  | zero => exact absurd hwidth (Nat.lt_irrefl 0)
  | succ width ih =>
      rw [places]
      by_cases hn : n < 10
      · rw [Nat.toDigits_of_lt_base hn, Nat.div_eq_of_lt hn, Nat.mod_eq_of_lt hn, places_zero,
          List.leftpad, List.length_singleton, Nat.add_sub_cancel]
      · have hsome : 0 < width := by
          rcases Nat.eq_zero_or_pos width with rfl | hpos
          · omega
          · exact hpos
        rw [Nat.toDigits_of_base_le (by decide) (Nat.le_of_not_lt hn), leftpad_snoc,
          ih hsome (div_ten_lt h)]

/-- Each zero that fills digits up at the end makes the number ten times as large. -/
theorem ofDigitChars_rightpad {width : Nat} {ds : List Char} :
    Nat.ofDigitChars 10 (ds.rightpad width '0') 0
      = Nat.ofDigitChars 10 ds 0 * 10 ^ (width - ds.length) := by
  rw [List.rightpad, Nat.ofDigitChars_append, Nat.ofDigitChars_replicate_zero, Nat.mul_comm]

/-! ## Order -/

/-- Texts whose fronts have one length are compared by the fronts first. -/
theorem append_lt_append {front front' : List Char} (h : front < front')
    (hlength : front.length = front'.length) (back back' : List Char) :
    front ++ back < front' ++ back' := by
  induction front generalizing front' with
  | nil =>
      obtain rfl := List.length_eq_zero_iff.mp hlength.symm
      exact absurd h (List.lt_irrefl _)
  | cons c front ih =>
      cases front' with
      | nil => exact nomatch hlength
      | cons c' front' =>
          rw [List.cons_append, List.cons_append, List.cons_lt_cons_iff]
          rcases List.cons_lt_cons_iff.mp h with hlt | ⟨rfl, hlt⟩
          · exact Or.inl hlt
          · exact Or.inr ⟨rfl, ih hlt (Nat.succ.inj hlength)⟩

/-- Digits have the order of their characters. -/
theorem digitChar_lt : ∀ b < 10, ∀ a < b, Nat.digitChar a < Nat.digitChar b := by decide

/-- The places of a smaller number are before those of a larger one. -/
theorem places_lt {width m n : Nat} (hn : n < 10 ^ width) (h : m < n) :
    places width m < places width n := by
  induction width generalizing m n with
  | zero => omega
  | succ width ih =>
      rw [places, places]
      rcases Nat.lt_or_eq_of_le (Nat.div_le_div_right (c := 10) (Nat.le_of_lt h)) with hlt | heq
      · exact append_lt_append (ih (div_ten_lt hn) hlt)
          ((length_places _ _).trans (length_places _ _).symm) _ _
      · rw [heq]
        have hlast := digitChar_lt (n % 10) (Nat.mod_lt n (by decide)) (m % 10) (by omega)
        exact List.append_left_lt (List.cons_lt_cons_iff.mpr (Or.inl hlast))

/-- Behind the same mark texts keep their order. -/
theorem mark_lt (mark : Char) {back back' : List Char} (h : back < back') :
    mark :: back < mark :: back' :=
  List.cons_lt_cons_iff.mpr (Or.inr ⟨rfl, h⟩)

/-- **Texts that begin with a column are compared by it first**, and behind it where the numbers
    are the same. -/
theorem places_append_lt {width m n : Nat} (hn : n < 10 ^ width) {back back' : List Char}
    (h : m < n ∨ m = n ∧ back < back') : places width m ++ back < places width n ++ back' := by
  rcases h with hlt | ⟨rfl, hlt⟩
  · exact append_lt_append (places_lt hn hlt)
      ((length_places _ _).trans (length_places _ _).symm) _ _
  · exact List.append_left_lt hlt

end Postbox.Decimal
