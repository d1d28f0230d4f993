import Postbox.Message

/-!
# Screen — the pane that is shown, and its text

  Exactly one pane is shown at a time. A `Snapshot` is all that an observer sees: the messages of
  the last list, the pane, the text of the last fault, and a counter of changes. `Snapshot.render`
  draws it as lines of text.
-/

namespace Postbox

/-- What the screen shows. A detail pane without a message waits for it. -/
inductive Pane
  | blank
  | inbox (messages : List Message)
  | detail (id : MessageId) (message : Option Message)
  | compose (draft : Message)
deriving DecidableEq, Repr

namespace Pane

/-- The name of the kind of pane. -/
def name : Pane → String
  | blank      => "blank"
  | inbox _    => "inbox"
  | detail _ _ => "detail"
  | compose _  => "compose"

/-- The messages of an inbox pane. -/
def messages? : Pane → Option (List Message)
  | inbox ms => some ms
  | _        => none

/-- The message of a detail pane that has arrived. -/
def chosen? : Pane → Option Message
  | detail _ m => m
  | _          => none

/-- The draft of a compose pane. -/
def draft? : Pane → Option Message
  | compose d => some d
  | _         => none

/-- Whether a detail pane waits for its message. -/
def isLoading : Pane → Bool
  | detail _ none => true
  | _             => false

/-- The pane with its draft changed, if it has one. -/
def edit? (f : Message → Message) : Pane → Option Pane
  | compose d => some (compose (f d))
  | _         => none

end Pane

/-- All that an observer sees at one moment. The revision counts without end; below 2 ^ 64 a word of
    64 bits holds the same. -/
structure Snapshot where
  messages  : List Message := []
  pane      : Pane := .blank
  lastError : Option String := none
  revision  : Nat := 0
deriving DecidableEq, Repr

/-! ## Text -/

/-- One line of the screen. -/
def Screen.line (s : String) : String := s ++ "\n"

/-- A value in a column of `width` characters, at its right end. -/
def Screen.alignRight (width : Nat) (s : String) : String :=
  String.ofList (s.toList.leftpad width ' ')

/-- A value in a column of `width` characters, at its left end. -/
def Screen.alignLeft (width : Nat) (s : String) : String :=
  String.ofList (s.toList.rightpad width ' ')

/-- The width of the last column of the inbox. -/
def Screen.summaryWidth : Nat := 60

open Screen

namespace Message

/-- What the inbox shows of the contents: the summary, or the text where the summary is empty. -/
def headline (m : Message) : String :=
  ((m.summary.filter (· ≠ "")).or m.text).getD ""

/-- The line of a message in the inbox: id, time of creation, headline. -/
def inboxLine (m : Message) : String :=
  alignRight 6 ((m.id.map MessageId.display).getD "") ++ "  " ++
  alignLeft 16 ((m.created.map Created.display).getD "") ++ "  " ++
  Text.truncate summaryWidth m.headline

/-- The lines of an open message. Id and time of creation have a line only where present. -/
def detailText (m : Message) : String :=
  ((m.id.map fun id => line ("Id:      " ++ id.display)).getD "") ++
  ((m.created.map fun c => line ("Created: " ++ c.display)).getD "") ++
  line ("Summary: " ++ m.summary.getD "") ++ line "" ++ line (m.text.getD "")

end Message

/-- The lines of a pane. -/
def Pane.render : Pane → String
  | blank => line "(nothing loaded)"
  | inbox messages =>
    line ("Inbox (" ++ toString messages.length ++ " messages)") ++
    (if messages.isEmpty then line "  No messages" else "") ++
    String.join (messages.map fun m => line m.inboxLine)
  | detail id none => line ("Loading message " ++ id.display ++ "…")
  | detail _ (some m) => m.detailText
  | compose draft =>
    line "New message" ++
    line ("Summary: " ++ draft.summary.getD "") ++
    line ("Text:    " ++ draft.text.getD "")

/-- The whole screen: the lines of the pane, and one for the last fault if there is one. -/
def Snapshot.render (s : Snapshot) : String :=
  s.pane.render ++ (s.lastError.map fun e => line ("Error: " ++ e)).getD ""

end Postbox
