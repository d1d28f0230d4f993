import Mathlib.Data.List.DropRight
import Postbox.Text

/-! # Trimming — what is left of a text without what stands around it

    Characters of a class are stripped off both ends of a text.  What is left is known by two
    things: only such characters stand around it, and none of them stands at its ends
    (`exists_strip`, `strip_around`).  For blanks this is what it means to trim a text
    (`trimmed_iff`). -/

namespace Postbox.Text

/-- Digits and signs are no blanks. -/
theorem isBlank_digit {c : Char} (h : c = '-' ∨ c.isDigit = true) : isBlank c = false := by
  rcases h with rfl | h
  · rfl
  · obtain ⟨hlow, hhigh⟩ := Char.isDigit_iff_toNat.mp h
    have hlow : 48 ≤ c.toNat := hlow
    have hhigh : c.toNat ≤ 57 := hhigh
    simp [isBlank]
    omega

/-! ## Blanks around a text -/

/-- `t` is `s` without the blanks around it: none stands at an end of `t`. -/
structure Trimmed (s t : String) : Prop where
  around : ∃ front back : List Char, (∀ c ∈ front, isBlank c = true) ∧
    (∀ c ∈ back, isBlank c = true) ∧ s.toList = front ++ t.toList ++ back
  first : ∀ c, t.toList.head? = some c → isBlank c = false
  last : ∀ c, t.toList.getLast? = some c → isBlank c = false

section

variable {p : Char → Bool}

/-- What does not begin with a character of the class is not shortened. -/
theorem dropWhile_of_head {cs : List Char} (h : ∀ c, cs.head? = some c → p c = false) :
    cs.dropWhile p = cs := by
  cases cs with
  | nil => rfl
  | cons c cs => exact List.dropWhile_cons_of_neg (by rw [h c rfl]; exact Bool.false_ne_true)

/-- What stands around a text is stripped, up to the first other character from either side. -/
theorem strip_around {front cs back : List Char} (hfront : ∀ c ∈ front, p c = true)
    (hback : ∀ c ∈ back, p c = true) (hfirst : ∀ c, cs.head? = some c → p c = false)
    (hlast : ∀ c, cs.getLast? = some c → p c = false) : strip p (front ++ cs ++ back) = cs := by
  rw [strip, List.append_assoc, List.dropWhile_append_of_pos hfront]
  cases cs with
  | nil =>
      rw [List.nil_append, List.dropWhile_eq_nil_iff.mpr hback]
      rfl
  | cons c cs =>
      have hkept : (c :: cs ++ back).dropWhile p = c :: cs ++ back :=
        dropWhile_of_head fun d hd => hfirst d hd
      rw [hkept, List.reverse_append,
        List.dropWhile_append_of_pos fun d hd => hback d (List.mem_reverse.mp hd),
        dropWhile_of_head, List.reverse_reverse]
      intro d hd
      exact hlast d (by rw [← List.head?_reverse]; exact hd)

/-- Nothing is stripped of a text without the characters. -/
theorem strip_none {cs : List Char} (h : ∀ c ∈ cs, p c = false) : strip p cs = cs := by
  have hends : strip p ([] ++ cs ++ []) = cs :=
    strip_around nofun nofun (fun c hc => h c (List.mem_of_head? hc))
      fun c hc => h c (List.mem_of_getLast? hc)
  rwa [List.nil_append, List.append_nil] at hends

/-- A text is what is stripped of it around what is left, which has none of it at its ends. -/
theorem exists_strip (p : Char → Bool) (cs : List Char) :
    (∃ front back, (∀ c ∈ front, p c = true) ∧ (∀ c ∈ back, p c = true) ∧
      cs = front ++ strip p cs ++ back) ∧
    (∀ c, (strip p cs).head? = some c → p c = false) ∧
    ∀ c, (strip p cs).getLast? = some c → p c = false := by
  have hnot : ∀ ds : List Char, ∀ c, (ds.dropWhile p).head? = some c → p c = false := by
    intro ds c hc
    have hhead := List.head?_dropWhile_not p ds
    rw [hc] at hhead
    simpa using hhead
  have hparts : strip p cs ++ (cs.dropWhile p).rtakeWhile p = cs.dropWhile p :=
    List.rdropWhile_append_rtakeWhile
  refine ⟨⟨cs.takeWhile p, (cs.dropWhile p).rtakeWhile p, fun c hc => List.mem_takeWhile_imp hc,
    fun c hc => List.mem_rtakeWhile_imp hc, ?_⟩, ?_, ?_⟩
  · rw [List.append_assoc, hparts, List.takeWhile_append_dropWhile]
  · intro c hc
    refine hnot cs c ?_
    rw [← hparts, List.head?_append, hc]
    rfl
  · intro c hc
    rw [strip, List.getLast?_reverse] at hc
    exact hnot _ c hc

end

/-- **Trimming takes away the blanks around a text**, and nothing else. -/
theorem trimmed_iff {s t : String} : Trimmed s t ↔ t = trim s := by
  constructor
  · rintro ⟨⟨front, back, hfront, hback, heq⟩, hfirst, hlast⟩
    rw [trim, heq, strip_around hfront hback hfirst hlast, String.ofList_toList]
  · rintro rfl
    obtain ⟨⟨front, back, hfront, hback, heq⟩, hfirst, hlast⟩ := exists_strip isBlank s.toList
    refine ⟨⟨front, back, hfront, hback, ?_⟩, ?_, ?_⟩
    · rw [trim, String.toList_ofList]
      exact heq
    · rw [trim, String.toList_ofList]
      exact hfirst
    · rw [trim, String.toList_ofList]
      exact hlast

/-- A text is trimmed once. -/
theorem trim_trim (s : String) : trim (trim s) = trim s := by
  obtain ⟨-, hfirst, hlast⟩ := trimmed_iff.mpr (rfl : trim s = trim s)
  exact (trimmed_iff.mp ⟨⟨[], [], nofun, nofun, by simp⟩, hfirst, hlast⟩).symm

end Postbox.Text
