import Mathlib.Data.List.Forall2

/-! # Steps — what is done one after the other, and can fail

    Files are followed, settings checked and arguments read by steps of which each can fail.
    What comes of several steps is taken apart here: they succeed if each of them does, and so
    do the steps for all members of a list. -/

namespace Postbox

/-- Two steps succeed if the first does, and the second does with what the first gives. -/
theorem bind_eq_ok {ε α β : Type} {x : Except ε α} {f : α → Except ε β} {b : β} :
    x.bind f = .ok b ↔ ∃ a, x = .ok a ∧ f a = .ok b := by
  cases x with
  | error e =>
      refine ⟨fun h => (nomatch h), ?_⟩
      rintro ⟨a, ha, -⟩
      exact nomatch ha
  | ok a =>
      refine ⟨fun h => ⟨a, rfl, h⟩, ?_⟩
      rintro ⟨a', ha, hb⟩
      rw [Except.ok.inj ha]
      exact hb

/-- What is left when a result was put into another form. -/
theorem map_eq_ok {ε α β : Type} {x : Except ε α} {f : α → β} {b : β} (h : x.map f = .ok b) :
    ∃ a, x = .ok a ∧ f a = b := by
  cases x with
  | error e => exact nomatch h
  | ok a => exact ⟨a, rfl, Except.ok.inj h⟩

/-- What was put into another form is gone on with in this form. -/
theorem map_bind {ε α β γ : Type} (x : Except ε α) (f : α → β) (g : β → Except ε γ) :
    (x.map f).bind g = x.bind fun a => g (f a) := by
  cases x with
  | error e => rfl
  | ok a => rfl

/-- A step gives the same if its failures are told in other words. -/
theorem mapError_eq_ok {ε ε' α : Type} {x : Except ε α} {f : ε → ε'} {a : α} :
    x.mapError f = .ok a ↔ x = .ok a := by
  cases x with
  | error e => exact ⟨nofun, nofun⟩
  | ok b => exact ⟨fun h => congrArg _ (Except.ok.inj h), fun h => congrArg _ (Except.ok.inj h)⟩

/-- What a step gave is what it succeeded with. -/
theorem toOption_eq_some {ε α : Type} {x : Except ε α} {a : α} :
    x.toOption = some a ↔ x = .ok a := by
  cases x with
  | error e => exact ⟨nofun, nofun⟩
  | ok b => exact ⟨fun h => congrArg _ (Option.some.inj h), fun h => congrArg _ (Except.ok.inj h)⟩

/-- What goes on has not been thrown. -/
theorem not_thrown {ε α β : Type} {p : Prop} [Decidable p] {e : ε} {next : β → Except ε α}
    {rest : Except ε α} {a : α}
    (h : (if p then (throw e : Except ε β) >>= next else rest) = .ok a) : rest = .ok a := by
  split at h
  · exact nomatch h
  · exact h

/-- What was not refused goes on. -/
theorem not_refused {ε α : Type} {p : Prop} [Decidable p] {e : ε} {rest : Except ε α} {a : α}
    (h : (if p then .error e else rest) = .ok a) : ¬ p ∧ rest = .ok a := by
  split at h
  · exact nomatch h
  · rename_i hp
    exact ⟨hp, h⟩

/-- What is found for all members of a list is found for each. -/
theorem mapM_eq_some_iff {α β : Type} {f : α → Option β} {xs : List α} {ys : List β} :
    xs.mapM f = some ys ↔ List.Forall₂ (fun x y => f x = some y) xs ys := by
  induction xs generalizing ys with
  | nil =>
      rw [List.mapM_nil, List.forall₂_nil_left_iff]
      exact Option.some_inj.trans eq_comm
  | cons x xs ih =>
      rw [List.mapM_cons]
      simp only [Option.bind_eq_bind, Option.bind_eq_some_iff, Option.pure_def, Option.some_inj, ih]
      constructor
      · rintro ⟨y, hy, ys, hys, rfl⟩
        exact .cons hy hys
      · rintro (_ | ⟨hy, hys⟩)
        exact ⟨_, hy, _, hys, rfl⟩

/-- Each member has something that is found for it, and all that is found is found for one. -/
theorem exists_of_mapM {α β : Type} {f : α → Option β} {xs : List α} {ys : List β}
    (h : xs.mapM f = some ys) :
    (∀ x ∈ xs, ∃ y ∈ ys, f x = some y) ∧ ∀ y ∈ ys, ∃ x ∈ xs, f x = some y := by
  have hall := mapM_eq_some_iff.mp h
  clear h
  induction hall with
  | nil => exact ⟨List.forall_mem_nil _, List.forall_mem_nil _⟩
  | cons hfirst _ ih =>
      obtain ⟨hleft, hright⟩ := ih
      refine ⟨List.forall_mem_cons.mpr ⟨⟨_, List.mem_cons_self, hfirst⟩, fun x hx => ?_⟩,
        List.forall_mem_cons.mpr ⟨⟨_, List.mem_cons_self, hfirst⟩, fun y hy => ?_⟩⟩
      · obtain ⟨y, hy, heq⟩ := hleft x hx
        exact ⟨y, .tail _ hy, heq⟩
      · obtain ⟨x, hx, heq⟩ := hright y hy
        exact ⟨x, .tail _ hx, heq⟩

end Postbox
