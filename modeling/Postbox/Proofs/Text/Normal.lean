import Mathlib.Data.List.Chain
import Postbox.Proofs.Text.Composition
import Postbox.Proofs.Text.Cutting

/-! # Normal — the composed spelling is its own

    A text is arranged when no mark stands behind one of a higher order, and such a text is left
    as it is (`arrange_of_arranged`).  What a letter joins, taking apart gives back, and arranging
    moves it back behind the marks that it was moved over (`arrange_composeBehind`); so composing
    is undone, and a text that was composed once is composed to itself (`normalize_normalize`).
    Nothing goes across a full stop, so that the labels of a composed name are composed
    (`normalize_label`). -/

namespace Postbox.Text

open Postbox.Text.Composition

/-! ## Arranging -/

/-- Two neighbours stand in their order: one of them has none, or the first has no higher one. -/
def InOrder (c d : Char) : Prop :=
  markOrder c = 0 ∨ markOrder d = 0 ∨ markOrder c ≤ markOrder d

/-- All neighbours stand in their order. -/
abbrev Arranged (cs : List Char) : Prop := cs.IsChain InOrder

theorem insertMark_before {c d : Char} (h : InOrder c d) (rest : List Char) :
    insertMark c (d :: rest) = c :: d :: rest := by
  rw [insertMark, if_pos]
  simpa [InOrder, or_assoc] using h

theorem insertMark_behind {c d : Char} (h : ¬ InOrder c d) (rest : List Char) :
    insertMark c (d :: rest) = d :: insertMark c rest := by
  rw [insertMark, if_neg]
  simpa [InOrder, or_assoc] using h

/-- A text with one more character, somewhere. -/
theorem insertMark_perm (c : Char) (cs : List Char) : (insertMark c cs).Perm (c :: cs) := by
  induction cs with
  | nil => exact .refl _
  | cons d rest ih =>
      by_cases h : InOrder c d
      · rw [insertMark_before h]
      · rw [insertMark_behind h]
        exact (ih.cons d).trans (.swap c d rest)

/-- A text is arranged without loss. -/
theorem arrange_perm (cs : List Char) : (arrange cs).Perm cs := by
  induction cs with
  | nil => exact .refl _
  | cons c cs ih => exact (insertMark_perm c _).trans (ih.cons c)

theorem arranged_insertMark (c : Char) {cs : List Char} (h : Arranged cs) :
    Arranged (insertMark c cs) := by
  induction cs with
  | nil => exact .singleton c
  | cons d rest ih =>
      by_cases hcd : InOrder c d
      · rw [insertMark_before hcd]
        exact .cons_cons hcd h
      · rw [insertMark_behind hcd]
        -- what is passed over has a lower order
        have hdc : InOrder d c := by
          rw [InOrder] at hcd ⊢
          omega
        cases rest with
        | nil => exact .cons_cons hdc (.singleton c)
        | cons e rest =>
            obtain ⟨hde, hrest⟩ := List.isChain_cons_cons.mp h
            have hbehind := ih hrest
            by_cases hce : InOrder c e
            · rw [insertMark_before hce] at hbehind ⊢
              exact .cons_cons hdc hbehind
            · rw [insertMark_behind hce] at hbehind ⊢
              exact .cons_cons hde hbehind

/-- **What `arrange` gives is arranged.** -/
theorem arranged_arrange (cs : List Char) : Arranged (arrange cs) := by
  induction cs with
  | nil => exact .nil
  | cons c cs ih => exact arranged_insertMark c ih

/-- An arranged text is left as it is. -/
theorem arrange_of_arranged {cs : List Char} (h : Arranged cs) : arrange cs = cs := by
  induction cs with
  | nil => rfl
  | cons c cs ih =>
      cases cs with
      | nil => rfl
      | cons d rest =>
          obtain ⟨hcd, hrest⟩ := List.isChain_cons_cons.mp h
          show insertMark c (arrange (d :: rest)) = c :: d :: rest
          rw [ih hrest, insertMark_before hcd]

/-- Marks of different orders do not touch. -/
theorem insertMark_comm {c d : Char} (hc : markOrder c ≠ 0) (hd : markOrder d ≠ 0)
    (hne : markOrder c ≠ markOrder d) (cs : List Char) :
    insertMark c (insertMark d cs) = insertMark d (insertMark c cs) := by
  have hcases : InOrder c d ∧ ¬ InOrder d c ∨ ¬ InOrder c d ∧ InOrder d c := by
    simp only [InOrder]
    omega
  induction cs with
  | nil =>
      show insertMark c [d] = insertMark d [c]
      rcases hcases with ⟨hcd, hdc⟩ | ⟨hcd, hdc⟩
      · rw [insertMark_before hcd, insertMark_behind hdc]
        rfl
      · rw [insertMark_behind hcd, insertMark_before hdc]
        rfl
  | cons e rest ih =>
      by_cases hce : InOrder c e
      · by_cases hde : InOrder d e
        · rw [insertMark_before hde, insertMark_before hce]
          rcases hcases with ⟨hcd, hdc⟩ | ⟨hcd, hdc⟩
          · rw [insertMark_before hcd, insertMark_behind hdc, insertMark_before hde]
          · rw [insertMark_behind hcd, insertMark_before hdc, insertMark_before hce]
        · -- the order of the second is the higher one
          have hdc : ¬ InOrder d c := by
            simp only [InOrder] at *
            omega
          rw [insertMark_behind hde, insertMark_before hce, insertMark_before hce,
            insertMark_behind hdc, insertMark_behind hde]
      · by_cases hde : InOrder d e
        · have hcd : ¬ InOrder c d := by
            simp only [InOrder] at *
            omega
          rw [insertMark_behind hce, insertMark_before hde, insertMark_before hde,
            insertMark_behind hcd, insertMark_behind hce]
        · rw [insertMark_behind hde, insertMark_behind hce, insertMark_behind hce,
            insertMark_behind hde, ih]

theorem arrange_append (front behind : List Char) :
    arrange (front ++ behind) = front.foldr insertMark (arrange behind) :=
  List.foldr_append

/-- A mark can be moved over marks of lower orders. -/
theorem arrange_move {c : Char} {marks : List Char}
    (h : ∀ m ∈ marks, markOrder m ≠ 0 ∧ markOrder m < markOrder c) (rest : List Char) :
    arrange (c :: (marks ++ rest)) = arrange (marks ++ c :: rest) := by
  induction marks with
  | nil => rfl
  | cons m marks ih =>
      obtain ⟨⟨hm, hless⟩, hmarks⟩ := List.forall_mem_cons.mp h
      show insertMark c (insertMark m (arrange (marks ++ rest)))
        = insertMark m (arrange (marks ++ c :: rest))
      rw [insertMark_comm (by omega) hm (by omega), ← ih hmarks]
      rfl

/-! ## Composing -/

/-- A text that is taken apart has the parts of its characters. -/
theorem decompose_eq (cs : List Char) : decompose cs = cs.flatMap parts := List.flatMap_assoc

theorem decompose_append (front behind : List Char) :
    decompose (front ++ behind) = decompose front ++ decompose behind := by
  rw [decompose_eq, decompose_eq, decompose_eq, List.flatMap_append]

theorem decompose_cons (c : Char) (cs : List Char) :
    decompose (c :: cs) = parts c ++ decompose cs := by
  rw [decompose_eq, decompose_eq, List.flatMap_cons]

/-- What has no parts is not taken apart. -/
theorem decompose_self {cs : List Char} (h : ∀ c ∈ cs, split c = [c]) : decompose cs = cs := by
  rw [decompose_eq]
  exact flatMap_self fun c hc => parts_of_split (h c hc)

/-- What is taken apart has no parts. -/
theorem split_of_mem_decompose {cs : List Char} {d : Char} (hd : d ∈ decompose cs) :
    split d = [d] := by
  rw [decompose_eq] at hd
  obtain ⟨c, -, hd⟩ := List.mem_flatMap.mp hd
  exact split_of_mem_parts hd

/-- What a letter does with the next character: it joins it, over marks of lower orders; or the
    character is the next letter; or it is one more mark. -/
inductive Step (letter : Char) (marks : List Char) (c : Char) (rest : List Char) : Prop
  | joined {j : Char} (near : ∀ m, marks.head? = some m → markOrder m < markOrder c)
      (join : join? letter c = some j)
      (step : composeBehind letter marks (c :: rest) = composeBehind j marks rest)
  | next (order : markOrder c = 0)
      (step : composeBehind letter marks (c :: rest)
        = letter :: (marks.reverse ++ composeBehind c [] rest))
  | passed (order : markOrder c ≠ 0)
      (step : composeBehind letter marks (c :: rest) = composeBehind letter (c :: marks) rest)

theorem step (letter : Char) (marks : List Char) (c : Char) (rest : List Char) :
    Step letter marks c rest := by
  cases hfound : (if marks.head?.all (fun m => markOrder m < markOrder c) then join? letter c
      else none) with
  | some j =>
      obtain ⟨hnear, hjoin⟩ := Option.ite_none_right_eq_some.mp hfound
      refine .joined (fun m hm => ?_) hjoin ?_
      · rw [hm] at hnear
        exact of_decide_eq_true hnear
      · rw [composeBehind, hfound]
  | none =>
      by_cases horder : markOrder c = 0
      · refine .next horder ?_
        rw [composeBehind, hfound]
        dsimp only
        rw [if_pos (beq_iff_eq.mpr horder), List.cons_append]
      · refine .passed horder ?_
        rw [composeBehind, hfound]
        dsimp only
        rw [if_neg (fun h => horder (beq_iff_eq.mp h))]

/-- The marks that are passed over behind a letter: they have orders, and none is followed by
    a lower one. The last one stands first. -/
structure Passed (marks : List Char) : Prop where
  order : ∀ m ∈ marks, markOrder m ≠ 0
  sorted : marks.Pairwise fun m n => markOrder n ≤ markOrder m

theorem Passed.nil : Passed [] := ⟨List.forall_mem_nil _, .nil⟩

/-- The last mark that is passed over has the highest order. -/
theorem Passed.le_head {m : Char} {marks : List Char} (h : Passed (m :: marks)) :
    ∀ n ∈ m :: marks, markOrder n ≤ markOrder m :=
  List.forall_mem_cons.mpr ⟨Nat.le_refl _, (List.pairwise_cons.mp h.sorted).1⟩

/-- One more mark is passed over. -/
theorem Passed.cons {c : Char} {marks : List Char} (h : Passed marks) (hc : markOrder c ≠ 0)
    (hnext : ∀ m, marks.head? = some m → InOrder m c) : Passed (c :: marks) := by
  refine ⟨List.forall_mem_cons.mpr ⟨hc, h.order⟩, .cons (fun n hn => ?_) h.sorted⟩
  cases marks with
  | nil => cases hn
  | cons m marks =>
      have hlast := hnext m rfl
      have hm := h.order m List.mem_cons_self
      have hle := h.le_head n hn
      rw [InOrder] at hlast
      omega

/-- **Joining is undone by taking apart and arranging**: a mark that is joined was moved over
    others of lower orders. -/
theorem arrange_composeBehind {letter : Char} {marks rest : List Char} (hmarks : Passed marks)
    (hnext : ∀ m c, marks.head? = some m → rest.head? = some c → InOrder m c)
    (hrest : Arranged rest) (hplain : ∀ c ∈ marks ++ rest, split c = [c]) :
    arrange (decompose (composeBehind letter marks rest))
      = arrange (parts letter ++ (marks.reverse ++ rest)) := by
  -- one character of the rest at a time: it is joined, begins anew, or is passed as a mark
  induction rest generalizing letter marks with
  | nil =>
      rw [composeBehind, decompose_cons, decompose_self, List.append_nil]
      intro c hc
      exact hplain c (List.mem_append_left _ (List.mem_reverse.mp hc))
  | cons c rest ih =>
      obtain ⟨hplainMarks, hplainRest⟩ := List.forall_mem_append.mp hplain
      obtain ⟨hc, hplainRest⟩ := List.forall_mem_cons.mp hplainRest
      obtain ⟨hafter, hbehind⟩ := List.isChain_cons.mp hrest
      cases step letter marks c rest with
      | @joined j near join step =>
          -- the marks that were passed are of lower orders, so they can be moved behind it
          have hlower : ∀ m ∈ marks.reverse, markOrder m ≠ 0 ∧ markOrder m < markOrder c := by
            intro m hm
            rw [List.mem_reverse] at hm
            refine ⟨hmarks.order m hm, ?_⟩
            cases marks with
            | nil => cases hm
            | cons last marks =>
                have hle := hmarks.le_head m hm
                have hless := near last rfl
                omega
          have hjoined : arrange (decompose (composeBehind j marks rest))
              = arrange (parts j ++ (marks.reverse ++ rest)) := by
            refine ih hmarks (fun m d hm hd => ?_) hbehind
              (List.forall_mem_append.mpr ⟨hplainMarks, hplainRest⟩)
            have hless := near m hm
            have hcd := hafter d hd
            rw [InOrder] at hcd ⊢
            omega
          rw [step, hjoined, (parts_join join).2, List.append_assoc, arrange_append,
            List.singleton_append, arrange_move hlower, ← arrange_append]
      | next order step =>
          -- a new letter: what follows it is arranged by itself
          have hafterwards : arrange (decompose (composeBehind c [] rest)) = arrange (c :: rest) := by
            rw [ih .nil nofun hbehind hplainRest, parts_of_split hc]
            rfl
          have hkept : decompose marks.reverse = marks.reverse :=
            decompose_self fun m hm => hplainMarks m (List.mem_reverse.mp hm)
          rw [step, decompose_cons, decompose_append, hkept, ← List.append_assoc, arrange_append,
            hafterwards, ← arrange_append, List.append_assoc]
      | passed order step =>
          rw [step, ih (hmarks.cons order fun m hm => hnext m c hm rfl) (fun m d hm hd => ?_) hbehind
            (List.forall_mem_append.mpr ⟨List.forall_mem_cons.mpr ⟨hc, hplainMarks⟩, hplainRest⟩),
            List.reverse_cons, List.append_assoc, List.singleton_append]
          rw [← Option.some.inj hm]
          exact hafter d hd

/-- A text that is arranged and has no parts is what its composed form is made of. -/
theorem arrange_compose {cs : List Char} (h : Arranged cs) (hplain : ∀ c ∈ cs, split c = [c]) :
    arrange (decompose (compose cs)) = cs := by
  cases cs with
  | nil => rfl
  | cons c rest =>
      have hbehind : Arranged rest := (List.isChain_cons.mp h).2
      obtain ⟨hc, hplainRest⟩ := List.forall_mem_cons.mp hplain
      rw [compose, arrange_composeBehind .nil nofun hbehind hplainRest, parts_of_split hc]
      exact arrange_of_arranged h

/-- **The normal form is its own.** -/
theorem normalize_normalize (cs : List Char) : normalize (normalize cs) = normalize cs := by
  have hplain : ∀ c ∈ arrange (decompose cs), split c = [c] := fun c hc =>
    split_of_mem_decompose ((arrange_perm _).mem_iff.mp hc)
  rw [normalize, normalize, arrange_compose (arranged_arrange _) hplain]

/-! ## What a composed text has -/

/-- What holds of the first characters, and is kept by taking apart and by joining, holds of
    the composed text. -/
theorem normalize_forall {P : Char → Prop} (hsplit : ∀ c, P c → ∀ d ∈ split c, P d)
    (hjoin : ∀ a b j, P a → P b → join? a b = some j → P j) {cs : List Char}
    (h : ∀ c ∈ cs, P c) : ∀ c ∈ normalize cs, P c := by
  -- it is kept for the letter, the marks passed and the rest alike, at each step
  have hbehind : ∀ rest letter marks, P letter → (∀ c ∈ marks, P c) → (∀ c ∈ rest, P c) →
      ∀ c ∈ composeBehind letter marks rest, P c := by
    intro rest
    induction rest with
    | nil =>
        intro letter marks hletter hmarks _
        rw [composeBehind]
        exact List.forall_mem_cons.mpr ⟨hletter, fun c hc => hmarks c (List.mem_reverse.mp hc)⟩
    | cons c rest ih =>
        intro letter marks hletter hmarks hall
        obtain ⟨hc, hrest⟩ := List.forall_mem_cons.mp hall
        cases step letter marks c rest with
        | @joined j _ join step =>
            rw [step]
            exact ih j marks (hjoin letter c j hletter hc join) hmarks hrest
        | next _ step =>
            rw [step]
            refine List.forall_mem_cons.mpr ⟨hletter, List.forall_mem_append.mpr ⟨?_, ?_⟩⟩
            · exact fun m hm => hmarks m (List.mem_reverse.mp hm)
            · exact ih c [] hc (List.forall_mem_nil _) hrest
        | passed _ step =>
            rw [step]
            exact ih letter (c :: marks) hletter (List.forall_mem_cons.mpr ⟨hc, hmarks⟩) hrest
  have hparts : ∀ c ∈ arrange (decompose cs), P c := by
    intro c hc
    rw [(arrange_perm _).mem_iff, decompose_eq] at hc
    obtain ⟨d, hd, hc⟩ := List.mem_flatMap.mp hc
    obtain ⟨e, he, hc⟩ := List.mem_flatMap.mp hc
    exact hsplit e (hsplit d (h d hd) e he) c hc
  rw [normalize]
  cases hall : arrange (decompose cs) with
  | nil => exact List.forall_mem_nil _
  | cons c rest =>
      rw [hall] at hparts
      obtain ⟨hc, hrest⟩ := List.forall_mem_cons.mp hparts
      exact hbehind rest c [] hc (List.forall_mem_nil _) hrest

/-- Composing makes no full stop. -/
theorem stop_notMem_normalize {cs : List Char} (h : '.' ∉ cs) : '.' ∉ normalize cs := by
  intro hmem
  refine normalize_forall (P := (· ≠ '.')) ?_ ?_ ?_ '.' hmem rfl
  · rintro c hc d hd rfl
    exact stop_notMem_split hc hd
  · intro a b j _ _ hj
    exact ne_stop_of_join hj
  · rintro c hc rfl
    exact h hc

/-! ## Full stops -/

/-- A character that joins nothing is followed by the composed form of the rest. -/
theorem composeBehind_alone {c : Char} (hc : ∀ d, join? c d = none) (marks rest : List Char) :
    composeBehind c marks rest = c :: (marks.reverse ++ compose rest) := by
  induction rest generalizing c marks with
  | nil =>
      rw [composeBehind, compose, List.append_nil]
  | cons d rest ih =>
      cases step c marks d rest with
      | joined near join step =>
          rw [hc d] at join
          cases join
      | next order step => exact step
      | passed order step =>
          -- a mark that has an order joins nothing either
          have hd : ∀ e, join? d e = none := by
            intro e
            cases hjoin : join? d e with
            | none => rfl
            | some j => exact absurd (markOrder_join hjoin) order
          rw [step, ih hc, compose, ih hd, List.reverse_cons, List.append_assoc]
          rfl

/-- What stands before a full stop is composed by itself. -/
theorem composeBehind_stop (letter : Char) (marks front behind : List Char) :
    composeBehind letter marks (front ++ '.' :: behind)
      = composeBehind letter marks front ++ '.' :: compose behind := by
  induction front generalizing letter marks with
  | nil =>
      cases step letter marks '.' behind with
      | joined near join step =>
          rw [join_low (by decide)] at join
          cases join
      | next order step =>
          rw [List.nil_append, step, composeBehind_alone join_stop, composeBehind]
          simp
      | passed order step => exact absurd (by decide) order
  | cons c front ih =>
      rw [List.cons_append, composeBehind, composeBehind]
      split
      · exact ih _ _
      · split
        · rw [ih, List.append_assoc]
        · exact ih _ _

theorem compose_stop (front behind : List Char) :
    compose (front ++ '.' :: behind) = compose front ++ '.' :: compose behind := by
  cases front with
  | nil => exact composeBehind_alone join_stop [] behind
  | cons c front => exact composeBehind_stop c [] front behind

/-- No mark is moved over a full stop. -/
theorem arrange_stop (front behind : List Char) :
    arrange (front ++ '.' :: behind) = arrange front ++ '.' :: arrange behind := by
  have hstop : markOrder '.' = 0 := by decide
  -- no mark is moved over a full stop, which is none itself
  have hinsert : ∀ c cs, insertMark c (cs ++ '.' :: arrange behind)
      = insertMark c cs ++ '.' :: arrange behind := by
    intro c cs
    induction cs with
    | nil => exact insertMark_before (Or.inr (Or.inl hstop)) _
    | cons d cs ih =>
        by_cases hcd : InOrder c d
        · rw [List.cons_append, insertMark_before hcd, insertMark_before hcd]
          rfl
        · rw [List.cons_append, insertMark_behind hcd, insertMark_behind hcd, ih]
          rfl
  induction front with
  | nil =>
      show insertMark '.' (arrange behind) = '.' :: arrange behind
      cases arrange behind with
      | nil => rfl
      | cons d rest => exact insertMark_before (Or.inl hstop) rest
  | cons c front ih =>
      show insertMark c (arrange (front ++ '.' :: behind)) = insertMark c (arrange front) ++ _
      rw [ih, hinsert]

/-- **What stands before a full stop, and what stands behind it, are composed by themselves.** -/
theorem normalize_stop (front behind : List Char) :
    normalize (front ++ '.' :: behind) = normalize front ++ '.' :: normalize behind := by
  have hstop : parts '.' = ['.'] := parts_of_split (split_low (by decide))
  rw [normalize, decompose_append, decompose_cons, hstop, List.singleton_append, arrange_stop,
    compose_stop]
  rfl

/-- **The labels of a composed name are composed.** -/
theorem normalize_label {cs : List Char} (h : normalize cs = cs) {label : List Char}
    (hlabel : label ∈ cs.splitOn '.') : normalize label = label := by
  have hlabels : ∀ labels : List (List Char), (∀ l ∈ labels, '.' ∉ l) →
      normalize (['.'].intercalate labels) = ['.'].intercalate labels →
      ∀ l ∈ labels, normalize l = l := by
    intro labels
    induction labels with
    | nil => exact fun _ _ => List.forall_mem_nil _
    | cons first others ih =>
        intro hnone hwhole
        obtain ⟨hfirst, hothers⟩ := List.forall_mem_cons.mp hnone
        cases others with
        | nil => exact List.forall_mem_singleton.mpr (by simpa using hwhole)
        | cons next others =>
            have hcut : ['.'].intercalate (first :: next :: others)
                = first ++ '.' :: ['.'].intercalate (next :: others) := by simp
            rw [hcut, normalize_stop] at hwhole
            obtain ⟨hfirst', hbehind⟩ := cut_inj (stop_notMem_normalize hfirst) hfirst hwhole
            exact List.forall_mem_cons.mpr ⟨hfirst', ih hothers hbehind⟩
  refine hlabels (cs.splitOn '.') (fun l hl => notMem_of_mem_splitOn hl) ?_ label hlabel
  rw [List.intercalate_splitOn, h]

/-- A text of ASCII is composed. -/
theorem normalize_ascii {cs : List Char} (h : ∀ c ∈ cs, c.toNat < 0x80) : normalize cs = cs := by
  have hletter : ∀ c ∈ cs, markOrder c = 0 := by
    intro c hc
    have hlow := h c hc
    rw [markOrder, mark?, if_pos (by omega)]
    rfl
  have hparts : decompose cs = cs := decompose_self fun c hc => by
    have hlow := h c hc
    exact split_low (by omega)
  have harranged : arrange cs = cs := arrange_of_arranged
    (List.pairwise_of_forall_mem_list fun c hc _ _ => Or.inl (hletter c hc)).isChain
  -- no mark and nothing to join, so each character is a letter of its own
  have hbehind : ∀ rest, (∀ d ∈ rest, d ∈ cs) → ∀ c, composeBehind c [] rest = c :: rest := by
    intro rest
    induction rest with
    | nil => exact fun _ _ => rfl
    | cons d rest ih =>
        intro hall c
        obtain ⟨hd, hrest⟩ := List.forall_mem_cons.mp hall
        have hlow := h d hd
        cases step c [] d rest with
        | joined _ join _ =>
            rw [join_low (by omega)] at join
            cases join
        | next _ step =>
            rw [step, ih hrest]
            rfl
        | passed order _ => exact absurd (hletter d hd) order
  rw [normalize, hparts, harranged]
  cases cs with
  | nil => rfl
  | cons c rest => exact hbehind rest (fun d hd => .tail c hd) c

end Postbox.Text
