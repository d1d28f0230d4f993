import Postbox.Proofs.Opening

/-! # Typing — the normal form of typed ids

    A typed text is freed of the blanks around it (`Text.trimmed_iff`), and the rest is read as
    a signed number of ASCII digits (`Decimal.int_eq_some`).  It is an id by number exactly when
    it is such a number and a word can hold it, and an id by text otherwise.

    What an id by text is shown as has no blanks around it and is no such number, so nothing
    changes when it is typed again; and the text of a number is that number. -/

namespace Postbox

namespace MessageId

/-- Every text is read, as the id that it means. -/
theorem parse_eq (s : String) : parse s = .ok (ofText s) := rfl

/-- A typed text is the id of a number if that is what the trimmed text is read as. -/
theorem ofText_eq_number {s : String} {w : Int64} :
    ofText s = number w ↔ Decimal.int64? (Text.trim s).toList = some w := by
  rw [ofText_eq]
  cases Decimal.int64? (Text.trim s).toList with
  | none => exact ⟨nofun, nofun⟩
  | some n =>
      exact ⟨fun h => congrArg some (number.inj h), fun h => congrArg number (Option.some.inj h)⟩

/-- A typed text is the id of the trimmed text if that is read as no number. -/
theorem ofText_eq_text {s t : String} :
    ofText s = text t ↔ t = Text.trim s ∧ Decimal.int64? (Text.trim s).toList = none := by
  rw [ofText_eq]
  cases Decimal.int64? (Text.trim s).toList with
  | none => exact ⟨fun h => ⟨(text.inj h).symm, rfl⟩, fun h => congrArg text h.1.symm⟩
  | some n => exact ⟨nofun, nofun⟩

/-- **An id that was typed is itself when it is typed again.** -/
theorem ofText_display (s : String) : ofText (ofText s).display = ofText s := by
  cases hid : ofText s with
  | number w => exact ofText_number w
  | text t =>
      obtain ⟨rfl, hnone⟩ := ofText_eq_text.mp hid
      rw [← Text.trim_trim s] at hnone
      exact ofText_eq_text.mpr ⟨(Text.trim_trim s).symm, hnone⟩

/-- **Typed ids have a normal form.**  A text means the id of a number exactly when it is,
    between blanks, digits with an optional sign that denote this number, and a word can hold it.
    Otherwise it means the id of the text without the blanks around it.  Reading never fails, and
    gives this id.  What an id from a text is shown as means the same id, and so does the text of
    every number. -/
theorem typed_ids_normal (s : String) :
    (∀ n, (∃ w, ofText s = number w ∧ w.toInt = n) ↔
      ∃ t, Text.Trimmed s t ∧ Decimal.Denotes t.toList n ∧ Decimal.InRange n) ∧
    (∀ t, ofText s = text t ↔
      Text.Trimmed s t ∧ ¬ ∃ n, Decimal.Denotes t.toList n ∧ Decimal.InRange n) ∧
    parse s = .ok (ofText s) ∧
    ofText (ofText s).display = ofText s ∧
    ∀ w, ofText (number w).display = number w := by
  refine ⟨fun n => ?_, fun t => ?_, parse_eq s, ofText_display s, ofText_number⟩
  · simp only [Text.trimmed_iff, exists_eq_left, ofText_eq_number, Decimal.int64_eq_some]
    constructor
    · rintro ⟨w, ⟨m, hm, hrange, rfl⟩, rfl⟩
      exact ⟨hm, hrange⟩
    · rintro ⟨hn, hrange⟩
      have hw := Decimal.toInt_ofInt hrange
      exact ⟨_, ⟨n, hn, hrange, hw⟩, hw⟩
  · rw [ofText_eq_text, Text.trimmed_iff, Decimal.int64_eq_none]
    refine and_congr_right fun ht => ?_
    rw [ht]

/-- A sign, zeros in front and blanks of any kind do not count in a number. -/
example : ofText "\u00a0 +007\t" = number 7 := by decide

end MessageId

end Postbox
