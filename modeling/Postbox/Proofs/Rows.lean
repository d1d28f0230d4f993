import Postbox.Screen
import Postbox.Proofs.Decimal
import Postbox.Proofs.Text.Cutting

/-! # Rows — the lines of the inbox, and what breaks them

    The inbox is drawn as rows: the heading, one row for each message, and one for the last
    fault.  A row goes to the screen as it is, with a line feed behind it.  So a feed inside of
    a row divides it, and the screen has the parts of the row as its lines (`lines_rows`).

    Only texts from outside can have feeds: an id or a time of creation that came as a text, as
    much of the headline as is shown, the text of the fault.  Numbers, days and minutes have
    none.  Where those texts have none (`Message.FitsLine`), each row is a line
    (`inbox_lines`). -/

namespace Postbox

namespace Screen

/-! ## Lines -/

/-- The parts of a text before, between and behind its line feeds. -/
def parts (s : String) : List String := (s.toList.splitOn '\n').map String.ofList

/-- The lines of a text, each of which ends in a line feed. -/
def lines (s : String) : List String := (parts s).dropLast

/-- A text has no line feed. -/
def OneLine (s : String) : Prop := '\n' ∉ s.toList

instance : DecidablePred OneLine := fun s => inferInstanceAs (Decidable ('\n' ∉ s.toList))

theorem parts_ne_nil (s : String) : parts s ≠ [] := fun h =>
  List.splitOn_ne_nil _ _ (List.map_eq_nil_iff.mp h)

/-- What stands in front of a line is in parts of its own. -/
theorem parts_line_append (s t : String) : parts (line s ++ t) = parts s ++ parts t := by
  have hlist : (line s ++ t).toList = s.toList ++ '\n' :: t.toList := by
    rw [line, String.toList_append, String.toList_append, List.append_assoc]
    rfl
  rw [parts, hlist, List.splitOn_append_cons_self, List.map_append]
  rfl

theorem lines_empty : lines "" = [] := rfl

/-- The first line of a text gives its parts. -/
theorem lines_line_append (s t : String) : lines (line s ++ t) = parts s ++ lines t := by
  rw [lines, parts_line_append, List.dropLast_append_of_ne_nil (parts_ne_nil t)]
  rfl

/-- **Rows give their parts as lines.** -/
theorem lines_rows (rows : List String) :
    lines (String.join (rows.map line)) = rows.flatMap parts := by
  induction rows with
  | nil => exact lines_empty
  | cons row rows ih =>
      rw [List.map_cons, String.join_cons, lines_line_append, ih, List.flatMap_cons]

/-- A text without a feed is one part. -/
theorem parts_of_oneLine {s : String} (h : OneLine s) : parts s = [s] := by
  rw [parts, List.splitOn_eq_singleton h, List.map_singleton, String.ofList_toList]

/-- A text with a feed is more than one part. -/
theorem one_lt_length_parts {s : String} (h : ¬ OneLine s) : 1 < (parts s).length := by
  obtain ⟨front, behind, hlist⟩ := List.append_of_mem (Decidable.not_not.mp h)
  rw [parts, hlist, List.splitOn_append_cons_self, List.length_map, List.length_append]
  have hfront := List.length_pos_iff.mpr (List.splitOn_ne_nil '\n' front)
  have hbehind := List.length_pos_iff.mpr (List.splitOn_ne_nil '\n' behind)
  omega

/-- There are as many lines as rows at least, and as many as rows only if no row has a feed. -/
theorem length_lines_rows (rows : List String) :
    rows.length ≤ (rows.flatMap parts).length ∧
      ((rows.flatMap parts).length = rows.length ↔ ∀ row ∈ rows, OneLine row) := by
  induction rows with
  | nil => exact ⟨Nat.le_refl _, iff_of_true rfl (List.forall_mem_nil _)⟩
  | cons row rows ih =>
      obtain ⟨hle, hiff⟩ := ih
      rw [List.flatMap_cons, List.length_append, List.length_cons, List.forall_mem_cons, ← hiff]
      by_cases hrow : OneLine row
      · rw [parts_of_oneLine hrow, List.length_singleton]
        refine ⟨by omega, fun h => ⟨hrow, by omega⟩, fun h => by omega⟩
      · have hparts := one_lt_length_parts hrow
        exact ⟨by omega, fun h => by omega, fun h => absurd h.1 hrow⟩

/-- Rows without feeds are the lines. -/
theorem flatMap_parts {rows : List String} (h : ∀ row ∈ rows, OneLine row) :
    rows.flatMap parts = rows := by
  induction rows with
  | nil => rfl
  | cons row rows ih =>
      obtain ⟨hrow, hrows⟩ := List.forall_mem_cons.mp h
      rw [List.flatMap_cons, parts_of_oneLine hrow, ih hrows]
      rfl

/-- **The lines are the rows** just where no row has a feed. -/
theorem lines_eq_rows {rows : List String} :
    rows.flatMap parts = rows ↔ ∀ row ∈ rows, OneLine row :=
  ⟨fun h => (length_lines_rows rows).2.mp (congrArg List.length h), flatMap_parts⟩

/-! ## Columns -/

theorem oneLine_append {s t : String} : OneLine (s ++ t) ↔ OneLine s ∧ OneLine t := by
  rw [OneLine, String.toList_append, List.mem_append, not_or]
  rfl

/-- What fills a column up divides no line. -/
theorem oneLine_alignRight (width : Nat) {s : String} :
    OneLine (alignRight width s) ↔ OneLine s := by
  rw [alignRight, OneLine, String.toList_ofList, List.leftpad, List.mem_append, not_or]
  refine and_iff_right fun h => ?_
  exact absurd (List.eq_of_mem_replicate h) (by decide)

theorem oneLine_alignLeft (width : Nat) {s : String} :
    OneLine (alignLeft width s) ↔ OneLine s := by
  rw [alignLeft, OneLine, String.toList_ofList, List.rightpad, List.mem_append, not_or]
  refine and_iff_left fun h => ?_
  exact absurd (List.eq_of_mem_replicate h) (by decide)

/-- A text of digits has no feed. -/
theorem oneLine_digits {cs : List Char} (h : ∀ c ∈ cs, c.isDigit = true) :
    OneLine (String.ofList cs) := by
  rw [OneLine, String.toList_ofList]
  exact fun hmem => absurd (h '\n' hmem) (by decide)

/-- Nor has a whole number with its sign. -/
theorem oneLine_int (i : Int) : OneLine (toString i) := by
  intro hmem
  rcases Decimal.mem_repr hmem with hsign | hdigit
  · exact absurd hsign (by decide)
  · exact absurd hdigit (by decide)

theorem oneLine_padded (width n : Nat) : OneLine (Decimal.padded width n) := by
  refine oneLine_digits fun c hc => ?_
  rw [List.leftpad] at hc
  rcases List.mem_append.mp hc with hzero | hdigit
  · rw [List.eq_of_mem_replicate hzero]
    decide
  · exact Json.isDigit_toDigits n c hdigit

/-- Nor have a day, an hour and a minute. -/
theorem oneLine_minuteText (t : Instant) : OneLine t.minuteText := by
  have hyear : OneLine (Instant.yearText t.date.year) := by
    rw [Instant.yearText]
    refine iteInduction (fun _ => ?_) fun _ => iteInduction (fun _ => ?_) fun _ => ?_
    · exact oneLine_append.mpr ⟨by decide, oneLine_padded _ _⟩
    · exact oneLine_append.mpr ⟨by decide, oneLine_padded _ _⟩
    · exact oneLine_padded _ _
  simp only [Instant.minuteText, oneLine_append, oneLine_padded, hyear, true_and, and_true]
  decide

end Screen

open Screen

/-! ## Messages -/

/-- An id breaks no line if it is a number, or a text without feeds. -/
theorem MessageId.oneLine_display (id : MessageId) :
    OneLine id.display ↔ ∀ s, id = .text s → OneLine s := by
  cases id with
  | number n => exact iff_of_true (oneLine_int _) (by rintro s ⟨⟩)
  | text s => exact ⟨by rintro h _ ⟨⟩; exact h, fun h => h s rfl⟩

/-- A time of creation breaks no line if it is a number of milliseconds, or a text without
    feeds. -/
theorem Created.oneLine_display (c : Created) :
    OneLine c.display ↔ ∀ s, c = .text s → OneLine s := by
  cases c with
  | millis ms =>
      refine iff_of_true ?_ (by rintro s ⟨⟩)
      rw [display]
      split
      · exact oneLine_minuteText _
      · exact oneLine_int _
  | text s => exact ⟨by rintro h _ ⟨⟩; exact h, fun h => h s rfl⟩

/-- Nothing that the inbox shows of a message has a line feed. -/
structure Message.FitsLine (m : Message) : Prop where
  id (s : String) (given : m.id = some (.text s)) : OneLine s
  created (s : String) (given : m.created = some (.text s)) : OneLine s
  headline : OneLine (Text.truncate summaryWidth m.headline)

/-- A field that may be absent breaks no line if its value breaks none. -/
theorem Screen.oneLine_field {α : Type} {display : α → String} {text : String → α}
    (h : ∀ x, OneLine (display x) ↔ ∀ s, x = text s → OneLine s) (field : Option α) :
    OneLine ((field.map display).getD "") ↔ ∀ s, field = some (text s) → OneLine s := by
  cases field with
  | none =>
      have hnone : OneLine "" := by decide
      exact iff_of_true hnone (by rintro s ⟨⟩)
  | some x => simp only [Option.map_some, Option.getD_some, Option.some.injEq, h]

/-- **A message has one line** just where nothing that is shown of it has a feed. -/
theorem Message.oneLine_inboxLine {m : Message} : OneLine m.inboxLine ↔ m.FitsLine := by
  have hgap : OneLine "  " := by decide
  simp only [inboxLine, oneLine_append, oneLine_alignRight, oneLine_alignLeft, hgap, and_true,
    oneLine_field MessageId.oneLine_display, oneLine_field Created.oneLine_display]
  exact ⟨fun ⟨⟨hid, hcreated⟩, hheadline⟩ => ⟨hid, hcreated, hheadline⟩,
    fun h => ⟨⟨h.id, h.created⟩, h.headline⟩⟩

/-! ## The inbox -/

/-- The rows of an inbox with messages: heading, messages, last fault. -/
def inboxRows (ms : List Message) (lastError : Option String) : List String :=
  ("Inbox (" ++ toString ms.length ++ " messages)") ::
    (ms.map Message.inboxLine ++ lastError.toList.map ("Error: " ++ ·))

/-- Neither a message nor the last fault breaks its row. -/
def InboxFits (ms : List Message) (lastError : Option String) : Prop :=
  (∀ m ∈ ms, m.FitsLine) ∧ ∀ e, lastError = some e → OneLine e

theorem length_inboxRows (ms : List Message) (lastError : Option String) :
    (inboxRows ms lastError).length = 1 + ms.length + lastError.toList.length := by
  rw [inboxRows, List.length_cons, List.length_append, List.length_map, List.length_map]
  omega

/-- The heading has no feed, and each other row has none where what it shows has none. -/
theorem oneLine_inboxRows {ms : List Message} {lastError : Option String} :
    (∀ row ∈ inboxRows ms lastError, OneLine row) ↔ InboxFits ms lastError := by
  have hheading : OneLine ("Inbox (" ++ toString ms.length ++ " messages)") :=
    oneLine_append.mpr ⟨oneLine_append.mpr ⟨by decide, oneLine_int ms.length⟩, by decide⟩
  have herror (e : String) : OneLine ("Error: " ++ e) ↔ OneLine e :=
    oneLine_append.trans (and_iff_right (by decide))
  simp only [inboxRows, List.forall_mem_cons, List.forall_mem_append, List.forall_mem_map,
    Message.oneLine_inboxLine, herror, hheading, true_and, Option.mem_toList, InboxFits]

/-- An inbox with messages is drawn as its rows. -/
theorem Snapshot.render_inbox {s : Snapshot} {ms : List Message} (shown : s.pane = .inbox ms)
    (some : ms ≠ []) : s.render = String.join ((inboxRows ms s.lastError).map line) := by
  have hempty : ms.isEmpty = false := List.isEmpty_eq_false_iff.mpr some
  have hmessages : String.join (ms.map fun m => line m.inboxLine)
      = String.join ((ms.map Message.inboxLine).map line) := by rw [List.map_map]; rfl
  have herror : (s.lastError.map fun e => line ("Error: " ++ e)).getD ""
      = String.join ((s.lastError.toList.map ("Error: " ++ ·)).map line) := by
    cases s.lastError with
    | none => rfl
    | some e =>
        rw [Option.toList_some, List.map_singleton, List.map_singleton, String.join_cons,
          String.join_nil, String.append_empty]
        rfl
  rw [render, shown, Pane.render, hempty, if_neg Bool.false_ne_true, String.append_empty,
    hmessages, herror, inboxRows, List.map_cons, List.map_append, String.join_cons,
    String.join_append, String.append_assoc]

/-- **The inbox has a line for each row, as far as no row has a feed.**  An inbox with messages is
    drawn as the heading, a row for each message and one for the last fault.  Their parts are the
    lines of the screen.  So there is a line for each row at least, and the rows are the lines
    just where no feed comes in from outside. -/
theorem inbox_lines {s : Snapshot} {ms : List Message} (shown : s.pane = .inbox ms)
    (some : ms ≠ []) :
    s.render = String.join ((inboxRows ms s.lastError).map line) ∧
    lines s.render = (inboxRows ms s.lastError).flatMap parts ∧
    (lines s.render = inboxRows ms s.lastError ↔ InboxFits ms s.lastError) ∧
    1 + ms.length + s.lastError.toList.length ≤ (lines s.render).length ∧
    ((lines s.render).length = 1 + ms.length + s.lastError.toList.length ↔
      InboxFits ms s.lastError) := by
  have hrender := Snapshot.render_inbox shown some
  have hlines : lines s.render = (inboxRows ms s.lastError).flatMap parts := by
    rw [hrender, lines_rows]
  obtain ⟨hle, hlength⟩ := length_lines_rows (inboxRows ms s.lastError)
  rw [length_inboxRows] at hle hlength
  rw [hlines, lines_eq_rows, oneLine_inboxRows]
  exact ⟨hrender, rfl, Iff.rfl, hle, hlength.trans oneLine_inboxRows⟩

/-- Two messages and a fault without feeds are four lines. -/
theorem inbox_lines_two :
    let ms : List Message :=
      [{ id := some (.number 1), created := some (.millis 0), summary := some "s" },
        { id := some (.text "x"), text := some "body", summary := some "" }]
    lines ({ pane := .inbox ms, lastError := some "refused" } : Snapshot).render
      = ["Inbox (2 messages)", "     1  1970-01-01 00:00  s", "     x                    body",
        "Error: refused"] := by
  intro ms
  have hfits : InboxFits ms (some "refused") := oneLine_inboxRows.mp (by decide)
  obtain ⟨-, -, hlines, -⟩ := inbox_lines
    (s := { pane := .inbox ms, lastError := some "refused" }) rfl (by decide)
  exact (hlines.mpr hfits).trans (by decide)

/-- A summary of two lines breaks its row. -/
theorem inbox_lines_broken : ¬ ∀ (s : Snapshot) (ms : List Message), s.pane = .inbox ms →
    ms ≠ [] → lines s.render = inboxRows ms s.lastError := by
  intro h
  let broken : Message := { id := some (.number 1), summary := some "a\nb" }
  exact absurd (h { pane := .inbox [broken] } [broken] rfl (by decide)) (by decide)

end Postbox
