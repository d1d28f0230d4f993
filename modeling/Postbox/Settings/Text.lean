import Postbox.Settings
import Postbox.Text
import Postbox.Toml.Reader

/-!
# Settings as text — the settings file

  Settings are written as a TOML document: a line for each of the plain values that is present, and
  a table for the CSRF header. A document is read with a default for each value that it leaves out;
  keys that mean nothing are passed over.
-/

namespace Postbox.Settings

/-! ## Writing -/

/-- A line with a key and its value. -/
def entry (key value : String) : String := key ++ " = " ++ value ++ "\n"

/-- The largest whole number of a document. -/
def maxInteger : Nat := Int64.maxValue.toInt.toNat

/-- The document of the settings. A timeout that is too large cannot be written. -/
def toToml (s : Settings) : Except SettingsProblem String :=
  if s.timeoutSecs.any (· > maxInteger) then .error .timeoutTooLarge
  else .ok <|
    entry "base_url" (Toml.quote s.baseUrl) ++
    entry "rest_path" (Toml.quote s.restPath) ++
    ((s.timeoutSecs.map fun n => entry "request_timeout_secs" (toString n)).getD "") ++
    entry "user_agent" (Toml.quote s.userAgent) ++
    ((s.csrf.map fun c =>
      "\n[csrf]\n" ++ entry "header" (Toml.quote c.header) ++
        entry "token" (Toml.quote c.token)).getD "")

/-! ## Reading -/

/-- A value that is a text. -/
def text? : Toml.Value → Option String
  | .text s => some s
  | _       => none

/-- A value that is a whole number and not negative. -/
def seconds? : Toml.Value → Option Nat
  | .integer n => if n.toInt < 0 then none else some n.toInt.toNat
  | _          => none

/-- A value that names a header and its value: a table with both, or a list that begins with
    both. -/
def csrf? : Toml.Value → Option CsrfToken
  | .table _ entries => do
    let header ← Toml.Entries.get? "header" entries
    let token ← Toml.Entries.get? "token" entries
    return ⟨← text? header, ← text? token⟩
  | .array (header :: token :: _) => do return ⟨← text? header, ← text? token⟩
  | _ => none

/-- The value of a key, read by `read`; the default where the key is missing. -/
def valueOr (default : α) (read : Toml.Value → Option α) (key : String) (es : Toml.Entries) :
    Option α :=
  match es.get? key with
  | none   => some default
  | some v => read v

/-- The settings that a document holds. -/
def ofEntries? (es : Toml.Entries) : Option Settings := do
  return {
    baseUrl     := ← valueOr standard.baseUrl text? "base_url" es
    restPath    := ← valueOr standard.restPath text? "rest_path" es
    timeoutSecs := ← valueOr standard.timeoutSecs (fun v => (seconds? v).map some)
                       "request_timeout_secs" es
    userAgent   := ← valueOr standard.userAgent text? "user_agent" es
    csrf        := ← valueOr standard.csrf (fun v => (csrf? v).map some) "csrf" es }

/-- The settings that a text holds. -/
def ofToml? (s : String) : Option Settings := (Toml.read? s).bind ofEntries?

end Postbox.Settings
