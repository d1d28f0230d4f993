import Postbox.Message
import Postbox.Fault

/-!
# Service — a message collection behind three operations

  A service keeps a state of type `σ` and answers three calls, each with a value or a fault:
  listing the collection, getting one message, and adding a draft to it. What is known of a
  service is its answers alone, so a statement about all services is one about all answers.
-/

namespace Postbox

/-- Three operations on a message collection whose state is a `σ`. Creating gives the records that
    the service returned for the draft. -/
structure Service (σ : Type) where
  list   : σ → Except Fault (List Message) × σ
  get    : MessageId → σ → Except Fault Message × σ
  create : Message → σ → Except Fault (List Message) × σ

/-- The three kinds of calls. -/
inductive Operation
  | list | get | create
deriving DecidableEq, Repr

/-- A call with its argument. -/
inductive Call
  | list
  | get (id : MessageId)
  | create (draft : Message)
deriving DecidableEq, Repr

/-- The kind of a call. -/
def Call.operation : Call → Operation
  | list     => .list
  | get _    => .get
  | create _ => .create

end Postbox
