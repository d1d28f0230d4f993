import Postbox.Screen

/-! # Columns — where the inbox shows what

    A row of the inbox has three columns: the id at the right end of the first one, the time of
    creation at the left end of the second one, and the headline.  Columns are filled up with
    blanks, counted in characters, and the headline is cut to what is left of the screen.  So ids
    and times that fit in their columns leave the columns in line, and no row is wider than the
    screen (`inbox_columns`).

    Cutting takes whole characters from the front and leaves room for the ellipsis
    (`Text.truncate_long`), so a cut text fits and is not cut again
    (`Text.truncate_truncate`). -/

namespace Postbox

namespace Text

/-! ## Cutting -/

/-- What fits is not cut. -/
theorem truncate_short {width : Nat} {s : String} (h : s.length ≤ width) :
    truncate width s = s := by
  rw [truncate, String.length_toList, if_pos h]

/-- **What does not fit keeps its front**, with an ellipsis for all that is behind. -/
theorem truncate_long {width : Nat} {s : String} (h : width < s.length) :
    ∃ front behind, s = front ++ behind ∧ front.length = width - 1 ∧
      truncate width s = front ++ "…" := by
  refine ⟨String.ofList (s.toList.take (width - 1)), String.ofList (s.toList.drop (width - 1)),
    ?_, ?_, ?_⟩
  · rw [← String.ofList_append, List.take_append_drop, String.ofList_toList]
  · rw [String.length_ofList, List.length_take, String.length_toList]
    omega
  · rw [truncate, String.length_toList, if_neg (Nat.not_le_of_lt h), String.ofList_append]

/-- A cut text fits. -/
theorem length_truncate_le {width : Nat} (hwidth : 0 < width) (s : String) :
    (truncate width s).length ≤ width := by
  rcases Nat.lt_or_ge width s.length with hlong | hshort
  · obtain ⟨front, behind, -, hfront, hcut⟩ := truncate_long hlong
    have hellipsis : "…".length = 1 := rfl
    rw [hcut, String.length_append, hellipsis]
    omega
  · rw [truncate_short hshort]
    exact hshort

/-- **A cut text is not cut again.** -/
theorem truncate_truncate {width : Nat} (hwidth : 0 < width) (s : String) :
    truncate width (truncate width s) = truncate width s :=
  truncate_short (length_truncate_le hwidth s)

end Text

namespace Message

/-! ## Rows -/

/-- The id as it is shown, or nothing. -/
def idShown (m : Message) : String := (m.id.map MessageId.display).getD ""

/-- The time of creation as it is shown, or nothing. -/
def createdShown (m : Message) : String := (m.created.map Created.display).getD ""

/-- The headline as far as it fits. -/
def headlineShown (m : Message) : String := Text.truncate Screen.summaryWidth m.headline

/-- What stands in front of the headline: two columns, each with two blanks behind it. -/
def front (m : Message) : String :=
  Screen.alignRight 6 m.idShown ++ "  " ++ Screen.alignLeft 16 m.createdShown ++ "  "

theorem inboxLine_eq (m : Message) : m.inboxLine = m.front ++ m.headlineShown := rfl

/-- Longer ids and times push the headline to the right. -/
theorem length_front (m : Message) :
    m.front.length = max 6 m.idShown.length + 2 + max 16 m.createdShown.length + 2 := by
  have hgap : "  ".length = 2 := rfl
  simp only [front, Screen.alignRight, Screen.alignLeft, String.length_append,
    String.length_ofList, List.length_leftpad, List.length_rightpad, String.length_toList, hgap]

/-- The row, cut between its columns. -/
theorem toList_inboxLine (m : Message) :
    m.inboxLine.toList = m.idShown.toList.leftpad 6 ' ' ++ ([' ', ' '] ++
      (m.createdShown.toList.rightpad 16 ' ' ++ ([' ', ' '] ++ m.headlineShown.toList))) := by
  rw [inboxLine_eq, front]
  simp only [Screen.alignRight, Screen.alignLeft, String.toList_append, String.toList_ofList,
    List.append_assoc]
  rfl

/-- Ids and times that fit leave the columns in line, and the row within the screen. -/
theorem columns_inLine {m : Message} (hid : m.idShown.length ≤ 6)
    (hcreated : m.createdShown.length ≤ 16) :
    m.inboxLine.toList.take 6
      = List.replicate (6 - m.idShown.length) ' ' ++ m.idShown.toList ∧
    (m.inboxLine.toList.drop 6).take 2 = [' ', ' '] ∧
    (m.inboxLine.toList.drop 8).take 16
      = m.createdShown.toList ++ List.replicate (16 - m.createdShown.length) ' ' ∧
    (m.inboxLine.toList.drop 24).take 2 = [' ', ' '] ∧
    m.inboxLine.toList.drop 26 = m.headlineShown.toList ∧
    m.inboxLine.length ≤ 86 := by
  have hidColumn : (m.idShown.toList.leftpad 6 ' ').length = 6 := by
    rw [List.length_leftpad, String.length_toList, Nat.max_eq_left hid]
  have hcreatedColumn : (m.createdShown.toList.rightpad 16 ' ').length = 16 := by
    rw [List.length_rightpad, String.length_toList, Nat.max_eq_left hcreated]
  have hrow := m.toList_inboxLine
  -- what is left of the row behind each column and each gap
  have h6 : m.inboxLine.toList.drop 6 = [' ', ' '] ++ (m.createdShown.toList.rightpad 16 ' ' ++
      ([' ', ' '] ++ m.headlineShown.toList)) := by
    rw [hrow, List.drop_left' hidColumn]
  have h8 : m.inboxLine.toList.drop (6 + 2) = m.createdShown.toList.rightpad 16 ' ' ++
      ([' ', ' '] ++ m.headlineShown.toList) := by
    rw [← List.drop_drop, h6]
    rfl
  have h24 : m.inboxLine.toList.drop (8 + 16) = [' ', ' '] ++ m.headlineShown.toList := by
    rw [← List.drop_drop, h8, List.drop_left' hcreatedColumn]
  have h26 : m.inboxLine.toList.drop (24 + 2) = m.headlineShown.toList := by
    rw [← List.drop_drop, h24]
    rfl
  refine ⟨?_, ?_, ?_, ?_, h26, ?_⟩
  · rw [hrow, List.take_left' hidColumn, List.leftpad, String.length_toList]
  · rw [h6]
    rfl
  · rw [h8, List.take_left' hcreatedColumn, List.rightpad, String.length_toList]
  · rw [h24]
    rfl
  · have hheadline : m.headlineShown.length ≤ 60 :=
      Text.length_truncate_le (by decide) m.headline
    rw [m.inboxLine_eq, String.length_append, m.length_front]
    omega

/-- A summary that is not empty is the headline. -/
theorem headline_summary {m : Message} {s : String} (given : m.summary = some s)
    (some : s ≠ "") : m.headline = s := by
  rw [headline, given, Option.filter_some, if_pos (decide_eq_true some)]
  rfl

/-- Without one the text is. -/
theorem headline_text {m : Message} (empty : m.summary.getD "" = "") :
    m.headline = m.text.getD "" := by
  rw [headline]
  cases hsummary : m.summary with
  | none => rfl
  | some s =>
      rw [hsummary, Option.getD_some] at empty
      rw [empty]
      rfl

end Message

/-- **The columns of the inbox are in line.**  An id of at most 6 characters and a time of at most
    16 have columns of that width, with two blanks behind each, so 26 characters stand in front
    of the headline and the row has 86 at most.  The headline is the last column in any case: a
    summary that is not empty, else the text, and whole up to 60 characters.  A longer one shows
    its first 59 characters and an ellipsis. -/
theorem inbox_columns (m : Message) :
    (m.idShown.length ≤ 6 → m.createdShown.length ≤ 16 →
      m.inboxLine.toList.take 6
        = List.replicate (6 - m.idShown.length) ' ' ++ m.idShown.toList ∧
      (m.inboxLine.toList.drop 6).take 2 = [' ', ' '] ∧
      (m.inboxLine.toList.drop 8).take 16
        = m.createdShown.toList ++ List.replicate (16 - m.createdShown.length) ' ' ∧
      (m.inboxLine.toList.drop 24).take 2 = [' ', ' '] ∧
      m.inboxLine.toList.drop 26 = m.headlineShown.toList ∧
      m.inboxLine.length ≤ 86) ∧
    (∃ front, m.inboxLine = front ++ m.headlineShown ∧
      front.length = max 6 m.idShown.length + 2 + max 16 m.createdShown.length + 2) ∧
    (∀ s, m.summary = some s → s ≠ "" → m.headline = s) ∧
    (m.summary.getD "" = "" → m.headline = m.text.getD "") ∧
    (m.headline.length ≤ 60 → m.headlineShown = m.headline) ∧
    (60 < m.headline.length → ∃ front behind, m.headline = front ++ behind ∧
      front.length = 59 ∧ m.headlineShown = front ++ "…") ∧
    Text.truncate 60 m.headlineShown = m.headlineShown := by
  refine ⟨Message.columns_inLine, ⟨m.front, m.inboxLine_eq, m.length_front⟩, ?_, ?_, ?_⟩
  · intro s
    exact Message.headline_summary
  · exact Message.headline_text
  · exact ⟨Text.truncate_short, Text.truncate_long,
      Text.truncate_truncate (by decide) m.headline⟩

/-- An empty summary gives way to the text. -/
example : ({ id := some (.number 7), text := some "hi", summary := some "" } : Message).inboxLine
    = "     7                    hi" := by decide

end Postbox
