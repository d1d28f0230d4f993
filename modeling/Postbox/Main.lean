import Postbox.Program

/-!
# Main — the program on real files

  What lies on the way to the settings file is read into a tree of files, the program runs on that
  tree, and what the run has changed is written. There is no connection to a service: a command that
  needs one fails as it does when the service cannot be reached.
-/

namespace Postbox.Disk

/-- The text of the absolute path of a place. -/
def pathText (place : FileTree.Place) : String := "/" ++ "/".intercalate place

/-- What is at a place on the disk. What cannot be read counts as absent. -/
def node? (place : FileTree.Place) : IO (Option FileTree.Node) := do
  try
    let path ← IO.FS.realPath (pathText place)
    if ← path.isDir then return some .directory
    return some (.file (← IO.FS.readBinFile path).toList)
  catch _ => return none

/-- The tree of what lies on the way to the working directory and on the way to a path. -/
def treeTo (path : Option String) : IO FileTree := do
  let current := (FileTree.Path.ofText (← IO.currentDir).toString).steps
  let known := (List.range current.length).map fun n =>
    (current.take (n + 1), FileTree.Node.directory)
  let mut tree : FileTree := { nodes := .ofList known, current := current }
  if let some text := path then
    let path := FileTree.Path.ofText text
    let mut place := if path.isAbsolute then [] else current
    for step in path.steps do
      if let .ok next := tree.step place step then
        place := next
        if (tree.node? place).isNone then
          if let some node ← node? place then
            tree := tree.put place node
  return tree

/-- Writes what differs between two trees. -/
def write (before after : FileTree) : IO Unit :=
  for (place, node) in after.nodes.toList do
    if before.node? place != some node then
      match node with
      | .directory  => IO.FS.createDirAll (pathText place)
      | .file bytes =>
        IO.FS.createDirAll (pathText place.dropLast)
        IO.FS.writeBinFile (pathText place) ⟨bytes.toArray⟩

/-- Runs the program on the arguments. -/
def run (args : List String) : IO UInt32 := do
  let standardPath := Settings.standardPath? (← IO.getEnv "HOME") (← IO.getEnv "XDG_CONFIG_HOME")
  let path := match CommandLine.read args with
    | .ok c    => c.configPath? standardPath
    | .error _ => none
  let before ← treeTo path
  let (report, after) := Program.report args standardPath ⟨before, { isUp := false }⟩
  write before after.files
  IO.print report.output
  (← IO.getStderr).putStr report.failure
  return report.exitCode.toUInt32

end Postbox.Disk

/-- The program. -/
def main (args : List String) : IO UInt32 := Postbox.Disk.run args
