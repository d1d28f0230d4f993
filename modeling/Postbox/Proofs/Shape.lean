import Mathlib.Data.List.TakeWhile
import Postbox.CommandLine

/-! # Shapes — what an argument looks like

    An argument shows by itself whether it is two hyphens, an option or a switch with two
    hyphens in front, letters with one, or anything else.  A name behind two hyphens is told
    from its value by the first equals sign; so a name without one can be read off what is
    written with it (`shape_long`, `shape_joined`), and an argument is written in one way only
    (`eq_of_shape`, `eq_of_shape_some`). -/

namespace Postbox.CommandLine.Level

/-- What an argument looks like: two hyphens, an option or a switch with two hyphens in front,
    letters with one, or anything else. -/
inductive Shape
  | hyphens
  | long (name : String) (value : Option String)
  | short (letter : Char)
  | plain

/-- What an argument looks like. -/
def shape (arg : String) : Shape :=
  match arg.toList with
  | ['-', '-']       => .hyphens
  | '-' :: '-' :: cs => .long (splitValue cs).1 (splitValue cs).2
  | '-' :: c :: _    => .short c
  | _                => .plain

/-- What stands before and behind an equals sign. -/
theorem splitValue_eq {cs : List Char} {name : String} (h : splitValue cs = (name, none)) :
    cs = name.toList := by
  obtain ⟨hname, hvalue⟩ := Prod.mk.inj h
  split at hvalue
  · exact nomatch hvalue
  · rename_i hlength
    rw [← hname, String.toList_ofList]
    have hparts := List.takeWhile_append_dropWhile (p := (· != '=')) (l := cs)
    have hnone : cs.dropWhile (· != '=') = [] := by
      have hlen := congrArg List.length hparts
      rw [List.length_append] at hlen
      exact List.eq_nil_of_length_eq_zero (by omega)
    rw [hnone, List.append_nil] at hparts
    exact hparts.symm

/-- A name without an equals sign ends in front of one. -/
theorem splitValue_append {name : List Char} (h : '=' ∉ name) (value : List Char) :
    splitValue (name ++ '=' :: value) = (String.ofList name, some (String.ofList value)) := by
  have hname : (name ++ '=' :: value).takeWhile (· != '=') = name := by
    rw [List.takeWhile_append_of_pos]
    · simp
    · intro c hc
      simp only [bne_iff_ne]
      rintro rfl
      exact h hc
  rw [splitValue, hname, if_pos (by simp)]
  simp

/-- What stands before and behind an equals sign, if there is one. -/
theorem splitValue_eq_some {cs : List Char} {name value : String}
    (h : splitValue cs = (name, some value)) : cs = name.toList ++ '=' :: value.toList := by
  obtain ⟨hname, hvalue⟩ := Prod.mk.inj h
  split at hvalue
  · rename_i hlength
    have hparts := List.takeWhile_append_dropWhile (p := (· != '=')) (l := cs)
    rw [← hname, ← Option.some.inj hvalue, String.toList_ofList, String.toList_ofList]
    cases hrest : cs.dropWhile (· != '=') with
    | nil =>
        rw [hrest, List.append_nil] at hparts
        rw [hparts] at hlength
        exact absurd hlength (Nat.lt_irrefl _)
    | cons c rest =>
        have hequals : c = '=' := by
          have hhead := List.head_dropWhile_not (· != '=') (l := cs) (by rw [hrest]; simp)
          simpa [hrest] using hhead
        rw [hrest, hequals] at hparts
        generalize cs.takeWhile (· != '=') = front at hparts ⊢
        rw [← hparts]
        simp
  · exact nomatch hvalue

/-- An argument that looks like two hyphens is just these. -/
theorem eq_of_shape_hyphens {arg : String} (h : shape arg = .hyphens) : arg = "--" := by
  rw [shape] at h
  split at h
  · rename_i hchars
    rw [← String.toList_inj, hchars]
    rfl
  · exact nomatch h
  · exact nomatch h
  · exact nomatch h

/-- An argument that looks like a switch is the switch. -/
theorem eq_of_shape {arg name : String} (h : shape arg = .long name none) :
    arg = "--" ++ name := by
  rw [shape] at h
  split at h
  · exact nomatch h
  · rename_i cs _ hcs
    obtain ⟨hname, hvalue⟩ := Shape.long.inj h
    have hsplit := splitValue_eq (Prod.ext hname hvalue : splitValue cs = (name, none))
    rw [← String.toList_inj, hcs, hsplit, String.toList_append]
    rfl
  · exact nomatch h
  · exact nomatch h

/-- An argument that looks like an option with its value is the option, and the value behind an
    equals sign. -/
theorem eq_of_shape_some {arg name value : String} (h : shape arg = .long name (some value)) :
    arg = "--" ++ name ++ "=" ++ value := by
  rw [shape] at h
  split at h
  · exact nomatch h
  · rename_i cs _ hcs
    obtain ⟨hname, hvalue⟩ := Shape.long.inj h
    have hsplit := splitValue_eq_some (Prod.ext hname hvalue : splitValue cs = (name, some value))
    rw [← String.toList_inj, hcs, hsplit]
    simp
  · exact nomatch h
  · exact nomatch h

/-- A name behind two hyphens looks like a switch, or like an option without its value. -/
theorem shape_long {name : String} (hnonempty : name ≠ "") (hequals : '=' ∉ name.toList) :
    shape ("--" ++ name) = .long name none := by
  have hsplit : splitValue name.toList = (name, none) := by
    have hname : name.toList.takeWhile (· != '=') = name.toList := by
      rw [List.takeWhile_eq_self_iff]
      intro c hc
      simp only [bne_iff_ne]
      rintro rfl
      exact hequals hc
    rw [splitValue, hname, if_neg (Nat.lt_irrefl _), String.ofList_toList]
  have hchars : ("--" ++ name).toList = '-' :: '-' :: name.toList := by
    rw [String.toList_append]
    rfl
  rw [shape, hchars]
  cases hcs : name.toList with
  | nil => exact absurd (String.toList_eq_nil_iff.mp hcs) hnonempty
  | cons c cs =>
      rw [hcs] at hsplit
      show Shape.long (splitValue (c :: cs)).1 (splitValue (c :: cs)).2 = _
      rw [hsplit]

/-- A name, an equals sign and a value behind two hyphens look like an option with its value. -/
theorem shape_joined {name : String} (hequals : '=' ∉ name.toList) (value : String) :
    shape ("--" ++ name ++ "=" ++ value) = .long name (some value) := by
  have hsplit := splitValue_append hequals value.toList
  rw [String.ofList_toList, String.ofList_toList] at hsplit
  have hchars : ("--" ++ name ++ "=" ++ value).toList
      = '-' :: '-' :: (name.toList ++ '=' :: value.toList) := by
    simp
  rw [shape, hchars]
  cases hcs : name.toList ++ '=' :: value.toList with
  | nil => exact absurd hcs (by simp)
  | cons c cs =>
      rw [hcs] at hsplit
      show Shape.long (splitValue (c :: cs)).1 (splitValue (c :: cs)).2 = _
      rw [hsplit]

end Postbox.CommandLine.Level
