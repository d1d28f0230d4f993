import Postbox.Message
import Postbox.Json.Reader

/-!
# Message records — messages as JSON

  A message is written as an object of its present fields (`Message.toJson`). It is read from an
  object, whose members may come in any order and may include unknown ones, or from an array of
  the four fields in their fixed order, of which trailing ones may be left off. In both forms
  `null` stands for an absent field.

  Three readers share this decoder: of one message, of a list of them, and of the reply to a saved
  draft, which may hold either, or anything else.
-/

namespace Postbox

namespace MessageId

/-- An id as a JSON value. -/
def toJson : MessageId → Json
  | number n => Json.ofInt n.toInt
  | text s   => Json.ofString s

/-- The id a JSON value stands for: a whole number of 64 bits, or a text. -/
def ofJson? : Json → Option MessageId
  | .number n => n.int64?.map number
  | .text g   => g.text?.map text
  | _         => none

end MessageId

namespace Created

/-- A time of creation as a JSON value. -/
def toJson : Created → Json
  | millis ms => Json.ofInt ms.toInt
  | text s    => Json.ofString s

/-- The time of creation a JSON value stands for: a whole number of 64 bits, or a text. -/
def ofJson? : Json → Option Created
  | .number n => n.int64?.map millis
  | .text g   => g.text?.map text
  | _         => none

end Created

namespace Message

/-- The names of the four fields, in their order. -/
def fieldNames : List String := ["id", "text", "summary", "created"]

/-- A message as a JSON object: its present fields in their order. -/
def toJson (m : Message) : Json :=
  let member (name : String) (v : Json) : Json.Glyphs × Json := (Json.Glyphs.ofString name, v)
  .object <|
    (m.id.map fun id => member "id" id.toJson).toList ++
    (m.text.map fun s => member "text" (Json.ofString s)).toList ++
    (m.summary.map fun s => member "summary" (Json.ofString s)).toList ++
    (m.created.map fun c => member "created" c.toJson).toList

/-- The text of a message record. -/
def write (m : Message) : String := m.toJson.write

/-- The text of a list of message records. -/
def writeList (ms : List Message) : String := (Json.array (ms.map toJson)).write

/-- Reads a field that may be absent: `null` stands for absence. -/
def optional (read : Json → Option α) : Json → Option (Option α)
  | .null => some none
  | v     => (read v).map some

/-- Reads a field that is a text. -/
def textField? : Json → Option String
  | .text g => g.text?
  | _       => none

/-- The message whose four fields have the given values. -/
def ofFields? (id text summary created : Json) : Option Message := do
  return {
    id      := ← optional MessageId.ofJson? id
    text    := ← optional textField? text
    summary := ← optional textField? summary
    created := ← optional Created.ofJson? created }

/-- The value of the member of the given name, `null` if there is none. -/
def member (name : String) (members : List (Json.Glyphs × Json)) : Json :=
  ((members.find? fun m => m.1 == Json.Glyphs.ofString name).map Prod.snd).getD .null

/-- The known names among the keys of an object. -/
def knownNames (members : List (Json.Glyphs × Json)) : List String :=
  (members.filterMap fun m => m.1.text?).filter fieldNames.contains

/-- The message a JSON value stands for.

    In an object all keys must be proper texts and no known name may be repeated; in an array
    there may be no fifth value. -/
def ofJson? : Json → Option Message
  | .object members =>
    if members.all (fun m => m.1.text?.isSome) && decide (knownNames members).Nodup then
      ofFields? (member "id" members) (member "text" members) (member "summary" members)
        (member "created" members)
    else none
  | .array values =>
    if values.length ≤ 4 then
      ofFields? (values.getD 0 .null) (values.getD 1 .null) (values.getD 2 .null)
        (values.getD 3 .null)
    else none
  | _ => none

/-- The messages a JSON array stands for. -/
def listOfJson? : Json → Option (List Message)
  | .array values => values.mapM ofJson?
  | _             => none

/-- Reads one message record. -/
def read? (s : Json.Glyphs) : Option Message := (Json.read? s).bind ofJson?

/-- Reads a list of message records. -/
def readList? (s : Json.Glyphs) : Option (List Message) := (Json.read? s).bind listOfJson?

/-- The records that the reply to a saved draft holds: those of a list of messages, or else the
    one message. A reply that is neither, or that is no plain document, holds none; the draft was
    saved all the same. -/
def ofReply (s : Json.Glyphs) : List Message :=
  ((Json.lex s).filter Json.isPlain).bind Json.assemble |>.bind
    (fun v => listOfJson? v <|> (ofJson? v).map ([·])) |>.getD []

end Message

end Postbox
