import Postbox.Settings.Text
import Postbox.FileTree

/-!
# Settings files — loading and saving

  Where there is no file the standard settings hold. What a file holds must be valid, and only valid
  settings are saved; they are written as a whole, and the directories on the way are made.
-/

namespace Postbox.Settings

/-- The path of the settings file, given the values of `HOME` and `XDG_CONFIG_HOME`. A relative
    value of the latter does not count. -/
def standardPath? (home xdg : Option String) : Option String :=
  let below (directory name : String) : String :=
    if directory.isEmpty || directory.endsWith "/" then directory ++ name
    else directory ++ "/" ++ name
  let directory := (xdg.filter fun d => d.startsWith "/").or (home.map fun h => below h ".config")
  directory.map fun d => below (below d "message-inbox") "config.toml"

/-- The settings in the file that a path leads to. -/
def load (path : String) (t : FileTree) : Except SettingsProblem Settings := do
  let p := FileTree.Path.ofText path
  if !t.exists? p then return standard
  let bytes ← (t.read p).mapError .unreadable
  let some text := Text.ofUtf8? bytes | throw (.unreadable .notUtf8)
  let some settings := ofToml? text | throw .malformed
  settings.validate
  return settings

/-- Saves the settings in the file that a path leads to. -/
def save (path : String) (s : Settings) (t : FileTree) : Except SettingsProblem Unit × FileTree :=
  let p := FileTree.Path.ofText path
  match (do s.validate; s.toToml) with
  | .error e => (.error e, t)
  | .ok text =>
    match t.makeDirectories p.parent with
    | (.error e, t) => (.error (.directory e), t)
    | (.ok _, t)    =>
      match t.write p (Text.utf8 text.toList) with
      | .error e => (.error (.unwritable e), t)
      | .ok t    => (.ok (), t)

end Postbox.Settings
