import Mathlib.Data.List.Pairwise
import Postbox.Text.Runs

/-! # Tables — what a sorted table says of a character

    A character is looked up by halves.  What is found is a run of the table that has it
    (`Runs.has_of_run`), and in a sorted table each run that has it is found
    (`Runs.run_of_has`).  So what a table says can be told from the list of its runs. -/

namespace Postbox.Text

/-- A run has a code point. -/
def Run.Has {α : Type} (r : Run α) (n : Nat) : Prop := r.first ≤ n ∧ n ≤ r.last

namespace Runs

variable {α : Type}

/-! ## Looking up -/

/-- What is found by halves has the code point. -/
theorem has_of_search {runs : Runs α} {n low high : Nat} {r : Run α}
    (h : runs.search n low high = some r) : r ∈ runs.toList ∧ r.Has n := by
  fun_induction search runs n low high with
  | case1 => cases h
  | case2 _ _ _ _ _ _ ih => exact ih h
  | case3 _ _ _ _ _ _ _ ih => exact ih h
  | case4 low high _ found hget hfirst hlast =>
      obtain rfl := Option.some.inj h
      exact ⟨Array.mem_toList_iff.mpr (Array.mem_of_getElem? hget), Nat.le_of_not_lt hfirst,
        Nat.le_of_not_lt hlast⟩
  | case5 => cases h

/-- The runs from a code point on stand in their order, and none is empty. -/
def isSortedFrom (low : Nat) : List (Run α) → Bool
  | []        => true
  | r :: rest => low ≤ r.first && r.first ≤ r.last && isSortedFrom (r.last + 1) rest

/-- In a sorted table all runs lie behind the first code point, and each before the next. -/
theorem sorted_of_isSortedFrom {low : Nat} {rs : List (Run α)} (h : isSortedFrom low rs = true) :
    (∀ r ∈ rs, low ≤ r.first ∧ r.first ≤ r.last) ∧ rs.Pairwise fun a b => a.last < b.first := by
  induction rs generalizing low with
  | nil => exact ⟨List.forall_mem_nil _, .nil⟩
  | cons r rs ih =>
      rw [isSortedFrom, Bool.and_eq_true, Bool.and_eq_true, decide_eq_true_iff,
        decide_eq_true_iff] at h
      obtain ⟨⟨hlow, hr⟩, hrest⟩ := h
      obtain ⟨hall, hpairs⟩ := ih hrest
      refine ⟨List.forall_mem_cons.mpr ⟨⟨hlow, hr⟩, fun s hs => ⟨?_, (hall s hs).2⟩⟩,
        .cons (fun s hs => (hall s hs).1) hpairs⟩
      have hbehind := (hall s hs).1
      omega

/-- By halves the run is found that has the code point, if it lies between the bounds. -/
theorem search_of_has {runs : Runs α} {start : Nat} (hsorted : isSortedFrom start runs.toList = true)
    {n low high i : Nat} {r : Run α} (hlow : low ≤ i) (hhigh : i < high) (hsize : high ≤ runs.size)
    (hget : runs[i]? = some r) (hr : r.Has n) : runs.search n low high = some r := by
  obtain ⟨hall, hpairs⟩ := sorted_of_isSortedFrom hsorted
  have hbefore : ∀ {j k : Nat} {a b : Run α}, j < k → runs[j]? = some a → runs[k]? = some b →
      a.last < b.first := by
    intro j k a b hjk ha hb
    obtain ⟨hj, rfl⟩ := Array.getElem?_eq_some_iff.mp ha
    obtain ⟨hk, rfl⟩ := Array.getElem?_eq_some_iff.mp hb
    exact List.pairwise_iff_getElem.mp hpairs j k hj hk hjk
  obtain ⟨hfirst, hlast⟩ := hr
  -- the run lies between the bounds: the half that is left out has only runs in front of it
  -- or only runs behind it
  fun_induction search runs n low high with
  | case1 low high _ hnone =>
      rw [Array.getElem?_eq_none_iff] at hnone
      omega
  | case2 low high _ mid hmid hless ih =>
      refine ih hlow (Nat.lt_of_not_le fun hle => ?_) (by omega)
      have hm := (hall mid (Array.mem_toList_iff.mpr (Array.mem_of_getElem? hmid))).2
      rcases Nat.lt_or_eq_of_le hle with hlt | rfl
      · have hapart := hbefore hlt hmid hget
        omega
      · obtain rfl := Option.some.inj (hmid.symm.trans hget)
        omega
  | case3 low high _ mid hmid hfits hmore ih =>
      refine ih (Nat.lt_of_not_le fun hle => ?_) hhigh hsize
      have hi := (hall r (Array.mem_toList_iff.mpr (Array.mem_of_getElem? hget))).2
      rcases Nat.lt_or_eq_of_le hle with hlt | rfl
      · have hapart := hbefore hlt hget hmid
        omega
      · obtain rfl := Option.some.inj (hmid.symm.trans hget)
        omega
  | case4 low high _ mid hmid hfits hmore =>
      rcases Nat.lt_trichotomy i ((low + high) / 2) with hlt | rfl | hgt
      · have hapart := hbefore hlt hget hmid
        omega
      · exact hmid.symm.trans hget
      · have hapart := hbefore hgt hmid hget
        omega
  | case5 => omega

/-- **What is found for a character** is a run of the table that has it. -/
theorem has_of_run {runs : Runs α} {c : Char} {r : Run α} (h : runs.run? c = some r) :
    r ∈ runs.toList ∧ r.Has c.toNat :=
  has_of_search h

/-- **In a sorted table each run that has a character is found for it.** -/
theorem run_of_has {runs : Runs α} {start : Nat} (hsorted : isSortedFrom start runs.toList = true)
    {c : Char} {r : Run α} (hmem : r ∈ runs.toList) (hr : r.Has c.toNat) :
    runs.run? c = some r := by
  obtain ⟨i, hi, rfl⟩ := List.getElem_of_mem hmem
  exact search_of_has hsorted (Nat.zero_le i) hi (Nat.le_refl _) (Array.getElem?_eq_getElem hi) hr

/-- Before its first run a sorted table has nothing. -/
theorem run_none {runs : Runs α} {start : Nat} (hsorted : isSortedFrom start runs.toList = true)
    {c : Char} (hc : c.toNat < start) : runs.run? c = none := by
  cases hfound : runs.run? c with
  | none => rfl
  | some r =>
      obtain ⟨hmem, hfirst, -⟩ := has_of_run hfound
      have hstart := ((sorted_of_isSortedFrom hsorted).1 r hmem).1
      omega

end Runs

/-! ## Trees -/

/-- A table in which a code point is looked up by structural recursion, so that what it says of
    many characters can be computed. -/
inductive Tree (α : Type)
  | leaf
  | node (left : Tree α) (r : Run α) (right : Tree α)

namespace Tree

variable {α : Type}

/-- The tree of the first runs of a list, of some depth, and the other runs. -/
def ofList : Nat → List (Run α) → Tree α × List (Run α)
  | 0, rs         => (leaf, rs)
  | depth + 1, rs =>
    match ofList depth rs with
    | (left, [])        => (left, [])
    | (left, r :: rest) => (node left r (ofList depth rest).1, (ofList depth rest).2)

/-- The runs of a tree in their order. -/
def toList : Tree α → List (Run α)
  | leaf              => []
  | node left r right => left.toList ++ r :: right.toList

/-- The run of a code point. -/
def find? (n : Nat) : Tree α → Option (Run α)
  | leaf              => none
  | node left r right =>
    if n < r.first then left.find? n else if r.last < n then right.find? n else some r

/-- A tree has the first runs of the list, and the others are left. -/
theorem toList_ofList (depth : Nat) (rs : List (Run α)) :
    (ofList depth rs).1.toList ++ (ofList depth rs).2 = rs := by
  induction depth generalizing rs with
  | zero => rfl
  | succ depth ih =>
      have hleft := ih rs
      rw [ofList]
      split
      · rename_i left heq
        rw [heq] at hleft
        exact hleft
      · rename_i left r rest heq
        rw [heq] at hleft
        show (left.toList ++ r :: (ofList depth rest).1.toList) ++ (ofList depth rest).2 = rs
        rw [List.append_assoc, List.cons_append, ih rest]
        exact hleft

/-- What is found is a run of the tree that has the code point. -/
theorem has_of_find {t : Tree α} {n : Nat} {r : Run α} (h : t.find? n = some r) :
    r ∈ t.toList ∧ r.Has n := by
  induction t with
  | leaf => cases h
  | node left s right ihleft ihright =>
      rw [find?] at h
      rw [toList, List.mem_append, List.mem_cons]
      split at h
      · exact ⟨Or.inl (ihleft h).1, (ihleft h).2⟩
      · split at h
        · exact ⟨Or.inr (Or.inr (ihright h).1), (ihright h).2⟩
        · obtain rfl := Option.some.inj h
          exact ⟨Or.inr (Or.inl rfl), by constructor <;> omega⟩

/-- In a sorted tree each run that has a code point is found for it. -/
theorem find_of_has {t : Tree α} (hall : ∀ r ∈ t.toList, r.first ≤ r.last)
    (hpairs : t.toList.Pairwise fun a b => a.last < b.first) {n : Nat} {r : Run α}
    (hmem : r ∈ t.toList) (hr : r.Has n) : t.find? n = some r := by
  induction t with
  | leaf => cases hmem
  | node left s right ihleft ihright =>
      obtain ⟨hleft, hright, hacross⟩ := List.pairwise_append.mp hpairs
      obtain ⟨hbehind, hright⟩ := List.pairwise_cons.mp hright
      obtain ⟨hallLeft, hallRight⟩ := List.forall_mem_append.mp hall
      obtain ⟨hs, hallRight⟩ := List.forall_mem_cons.mp hallRight
      obtain ⟨hfirst, hlast⟩ := hr
      rw [find?]
      rcases List.mem_append.mp hmem with hmem | hmem
      · have hbefore := hacross r hmem s List.mem_cons_self
        rw [if_pos (by omega), ihleft hallLeft hleft hmem]
      · rcases List.mem_cons.mp hmem with rfl | hmem
        · rw [if_neg (by omega), if_neg (by omega)]
        · have hafter := hbehind r hmem
          rw [if_neg (by omega), if_pos (by omega), ihright hallRight hright hmem]

/-- **Looking up by halves and in the tree are one**, for a sorted table whose runs are all in
    the tree. -/
theorem run_eq_find {runs : Runs α} {start depth : Nat}
    (hsorted : Runs.isSortedFrom start runs.toList = true)
    (hwhole : (ofList depth runs.toList).2 = []) (c : Char) :
    runs.run? c = (ofList depth runs.toList).1.find? c.toNat := by
  have hlist : (ofList depth runs.toList).1.toList = runs.toList := by
    have happend := toList_ofList depth runs.toList
    rwa [hwhole, List.append_nil] at happend
  obtain ⟨hall, hpairs⟩ := Runs.sorted_of_isSortedFrom hsorted
  cases hfound : runs.run? c with
  | some r =>
      obtain ⟨hmem, hr⟩ := Runs.has_of_run hfound
      rw [← hlist] at hall hpairs hmem
      exact (find_of_has (fun s hs => (hall s hs).2) hpairs hmem hr).symm
  | none =>
      cases hother : (ofList depth runs.toList).1.find? c.toNat with
      | none => rfl
      | some r =>
          obtain ⟨hmem, hr⟩ := has_of_find hother
          rw [hlist] at hmem
          rw [Runs.run_of_has hsorted hmem hr] at hfound
          cases hfound

end Tree

namespace Runs

variable {α : Type}

/-! ## Reading -/

/-- The runs that characters denote. -/
def ofChars (value : List Char → α) (cs : List Char) : List (Run α) :=
  ((cs.splitOnP fun c => c == ' ' || c == '\n').filter fun w => !w.isEmpty).map (ofWord value)

/-- What can be checked of the characters of a table holds of the table. -/
theorem ofText_of_ofChars {value : List Char → α} {s : String} {l : List Char}
    (hs : s = String.ofList l) {P : List (Run α) → Prop} (h : P (ofChars value l)) :
    P (ofText value s).toList := by
  rw [ofText, hs, String.toList_ofList]
  exact h

end Runs

end Postbox.Text
