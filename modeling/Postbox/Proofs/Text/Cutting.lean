import Mathlib.Data.List.Basic

/-! # Cutting — texts and the parts between their marks

    A text is cut at a mark, and put together with marks between its parts.  What is needed
    again and again: no part has the mark in it, the part in front ends at the first mark,
    and the part at the end begins behind the last one. -/

namespace Postbox.Text

/-- What holds of a separator and of all parts holds of what is put together of them. -/
theorem forall_mem_intercalate {α : Type} {P : α → Prop} {separator : List α}
    (hseparator : ∀ x ∈ separator, P x) {xss : List (List α)} (h : ∀ xs ∈ xss, ∀ x ∈ xs, P x) :
    ∀ x ∈ separator.intercalate xss, P x := by
  induction xss with
  | nil => exact List.forall_mem_nil _
  | cons xs rest ih =>
      cases rest with
      | nil =>
          rw [List.intercalate_singleton]
          exact h xs (.head _)
      | cons ys rest =>
          rw [List.intercalate_cons_cons]
          have hfront := List.forall_mem_append.mpr ⟨h xs (.head _), hseparator⟩
          exact List.forall_mem_append.mpr ⟨hfront, ih fun zs hzs => h zs (.tail _ hzs)⟩

/-- The characters of a part are those of the text, and what it is split at is not among them. -/
theorem forall_mem_splitOnP (p : Char → Bool) (cs : List Char) :
    ∀ part ∈ cs.splitOnP p, ∀ c ∈ part, c ∈ cs ∧ p c = false := by
  induction cs with
  | nil =>
      rw [List.splitOnP_nil]
      exact List.forall_mem_singleton.mpr (List.forall_mem_nil _)
  | cons c cs ih =>
      have hmore : ∀ part ∈ cs.splitOnP p, ∀ d ∈ part, d ∈ c :: cs ∧ p d = false :=
        fun part hpart d hd => ⟨.tail c (ih part hpart d hd).1, (ih part hpart d hd).2⟩
      rw [List.splitOnP_cons_eq_if_modifyHead]
      split
      · exact List.forall_mem_cons.mpr ⟨List.forall_mem_nil _, hmore⟩
      · rename_i hc
        cases hparts : cs.splitOnP p with
        | nil => exact absurd hparts (List.splitOnP_ne_nil p cs)
        | cons part parts =>
            rw [hparts] at hmore
            obtain ⟨hpart, hothers⟩ := List.forall_mem_cons.mp hmore
            exact List.forall_mem_cons.mpr ⟨List.forall_mem_cons.mpr
              ⟨⟨List.mem_cons_self, Bool.eq_false_iff.mpr hc⟩, hpart⟩, hothers⟩

/-- No part between marks has the mark. -/
theorem notMem_of_mem_splitOn {mark : Char} {cs part : List Char} (h : part ∈ cs.splitOn mark) :
    mark ∉ part := fun hmem =>
  absurd (beq_self_eq_true mark)
    (Bool.eq_false_iff.mp (forall_mem_splitOnP _ cs part h mark hmem).2)

/-- A run of characters of a class is taken up to what does not begin with one. -/
theorem takeWhile_append_of {p : Char → Bool} {front behind : List Char}
    (hfront : ∀ c ∈ front, p c = true) (hbehind : ∀ c, behind.head? = some c → p c = false) :
    (front ++ behind).takeWhile p = front := by
  rw [List.takeWhile_append_of_pos hfront]
  cases behind with
  | nil => rw [List.takeWhile_nil, List.append_nil]
  | cons c behind =>
      rw [List.takeWhile_cons_of_neg (by rw [hbehind c rfl]; exact Bool.false_ne_true),
        List.append_nil]

/-- Before its first mark a text is cut in one way. -/
theorem cut_inj {mark : Char} {front front' behind behind' : List Char} (h : mark ∉ front)
    (h' : mark ∉ front') (heq : front ++ mark :: behind = front' ++ mark :: behind') :
    front = front' ∧ behind = behind' := by
  have htake : ∀ cs ds : List Char, mark ∉ cs →
      (cs ++ mark :: ds).takeWhile (· != mark) = cs := by
    intro cs ds hcs
    refine takeWhile_append_of (fun c hc => bne_iff_ne.mpr ?_) fun c hc => ?_
    · rintro rfl
      exact hcs hc
    · obtain rfl := Option.some.inj hc
      exact bne_self_eq_false _
  obtain rfl : front = front' := by rw [← htake front behind h, heq, htake front' behind' h']
  exact ⟨rfl, (List.cons.inj (List.append_cancel_left heq)).2⟩

/-- What stands behind the last mark of a text, and what stands before it. -/
theorem takeWhile_reverse_append (front : List Char) {mark : Char} {behind : List Char}
    (h : mark ∉ behind) :
    ((front ++ mark :: behind).reverse.takeWhile (· != mark)).reverse = behind ∧
      (front ++ mark :: behind).take ((front ++ mark :: behind).length - behind.length - 1)
        = front := by
  have hall : ∀ c ∈ behind.reverse, (c != mark) = true := by
    intro c hc
    refine bne_iff_ne.mpr ?_
    rintro rfl
    exact h (List.mem_reverse.mp hc)
  have htake : (front ++ mark :: behind).reverse.takeWhile (· != mark) = behind.reverse := by
    rw [List.reverse_append, List.reverse_cons, List.append_assoc]
    refine takeWhile_append_of hall ?_
    rintro c hc
    obtain rfl := Option.some.inj hc
    exact bne_self_eq_false _
  have hlength : (front ++ mark :: behind).length - behind.length - 1 = front.length := by
    rw [List.length_append, List.length_cons]
    omega
  rw [htake, hlength, List.reverse_reverse, List.take_left]
  exact ⟨rfl, rfl⟩

end Postbox.Text
