import Postbox.Text
import Postbox.Decimal
import Postbox.Instant

/-!
# Message — the records of the collection

  A message has four fields, each of which may be absent. Its id and its time of creation come as
  a number or as a text, and are kept in the form in which they came.
-/

namespace Postbox

/-- The name the service gave a message. -/
inductive MessageId
  | number (n : Int64)
  | text (s : String)
deriving DecidableEq, Repr

/-- The time of creation as the service states it: milliseconds since 1970, or a text. -/
inductive Created
  | millis (ms : Int64)
  | text (s : String)
deriving DecidableEq, Repr

/-- A record of the collection, or a draft of one. -/
structure Message where
  id      : Option MessageId := none
  text    : Option String := none
  summary : Option String := none
  created : Option Created := none
deriving DecidableEq, Repr

namespace MessageId

/-- The text of an id as it is shown and put into addresses. -/
def display : MessageId → String
  | number n => toString n.toInt
  | text s   => s

/-- Reads an id: a number where the trimmed text is one, else that text. No text is refused. -/
def parse (s : String) : Except Empty MessageId :=
  .ok <|
    match Decimal.int64? (Text.trim s).toList with
    | some n => number n
    | none   => text (Text.trim s)

/-- The id that a typed text means. A text that could not be read would stand for itself. -/
def ofText (s : String) : MessageId :=
  match parse s with
  | .ok id   => id
  | .error _ => text s

end MessageId

namespace Created

/-- The point of time, where the statement can be read as one. -/
def instant? : Created → Option Instant
  | millis ms => Instant.ofMillis? ms.toInt
  | text s    => Instant.ofText? s

/-- A text is shown as it came; milliseconds as day and minute, or as they came when they lie
    beyond the calendar. -/
def display : Created → String
  | text s    => s
  | millis ms =>
    match Instant.ofMillis? ms.toInt with
    | some t => t.minuteText
    | none   => toString ms.toInt

end Created

namespace Message

/-- The message without any field, with which composing starts. -/
def empty : Message := {}

/-- Whether no field is present. -/
def isEmpty (m : Message) : Bool :=
  m.id.isNone && m.text.isNone && m.summary.isNone && m.created.isNone

/-- The message with another text. -/
def withText (m : Message) (s : String) : Message := { m with text := some s }

/-- The message with another summary. -/
def withSummary (m : Message) (s : String) : Message := { m with summary := some s }

/-- The point of time of creation, where it is known. -/
def createdAt? (m : Message) : Option Instant := m.created.bind Created.instant?

end Message

end Postbox
