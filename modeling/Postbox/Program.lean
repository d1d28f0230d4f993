import Postbox.Action
import Postbox.CommandLine.Help
import Postbox.Service.Remote
import Postbox.Settings.File

/-!
# Program — carrying out a command line

  A run goes from the files and the link as they are to a text for the standard output, or to a
  failure, and to files and link as they are afterwards. Settings are loaded and overridden first,
  then the command is carried out: on the settings themselves, or on the collection that they lead
  to (`screen`). `report` is the whole program: it also answers command lines that are not carried
  out.
-/

namespace Postbox

/-- Why a run failed. -/
inductive Failure
  | fault (f : Fault)
  | loading (what : String) (f : Fault)
  | needsNoService
  | noSettingsDirectory
deriving DecidableEq, Repr

namespace Failure

/-- The text of a failure, and the text of its cause where it has one. -/
def chain : Failure → List String
  | fault f             => [f.message]
  | loading what f      => ["Loading " ++ what, f.message]
  | needsNoService      => ["config does not use the message service"]
  | noSettingsDirectory => ["Cannot find config directory"]

/-- The lines that tell of a failure. -/
def report (f : Failure) : String :=
  let cause (text : String) : String :=
    "\n\nCaused by:\n    " ++ "\n    ".intercalate ((text.toList.splitOn '\n').map String.ofList)
  "Error: " ++ f.chain.headD "" ++ String.join (f.chain.tail.map cause) ++ "\n"

end Failure

namespace Program

/-! ## On the collection -/

/-- The draft that a compose command saves. -/
def draftOf (text : String) (summary : Option String) (m : Message) : Message :=
  { m with text := some text, summary := summary }

/-- The actions that follow when the inbox is shown. -/
def actions : Command → Option (List Action)
  | .list                 => some []
  | .show id              => some [.showId (.ofText id)]
  | .compose text summary => some [.startDraft, .editDraft (draftOf text summary), .saveDraft]
  | .config _             => none

/-- Runs actions one after the other, up to the first that fails. -/
def runAll (service : Service σ) : List Action → σ → Snapshot → Outcome σ
  | [], store, s      => ⟨.ok (), [], store, s⟩
  | a :: as, store, s =>
    let o := a.run service store s
    match o.result with
    | .error _ => o
    | .ok _    =>
      let later := runAll service as o.store o.snapshot
      { later with events := o.events ++ later.events }

/-- The screen that a command ends with, the events on the way, and the service's next state. The
    inbox comes first, whatever the command. -/
def screen (service : Service σ) (command : Command) (store : σ) :
    Except Failure String × List Event × σ :=
  let first := Action.showInbox.run service store {}
  match first.result, actions command with
  | .error f, _    => (.error (.loading "inbox" f), first.events, first.store)
  | .ok _, none    => (.error .needsNoService, first.events, first.store)
  | .ok _, some as =>
    let last := runAll service as first.store first.snapshot
    ((last.result.mapError .fault).map fun _ => last.snapshot.render,
      first.events ++ last.events, last.store)

/-! ## With settings -/

/-- Files, and a link to the service. -/
structure World where
  files : FileTree := {}
  link  : Http.Link := {}
deriving Repr

/-- The settings of a run: those of the file, if a path of one is known, with the options' values in
    place of theirs. -/
def settings (c : CommandLine) (path : Option String) (files : FileTree) :
    Except Failure Settings := do
  let loaded ← match path with
    | some p => (Settings.load p files).mapError fun e => .loading p (.settings e)
    | none   => pure .standard
  let s := c.override loaded
  (s.validate).mapError fun e => .fault (.settings e)
  return s

/-- Shows the settings, or writes them to the file. -/
def configure (s : Settings) (write : Bool) (path : Option String) (w : World) :
    Except Failure String × World :=
  if write then
    match path with
    | none   => (.error .noSettingsDirectory, w)
    | some p =>
      let (result, files) := s.save p w.files
      ((result.mapError fun e => .fault (.settings e)).map fun _ =>
        "Configuration written to " ++ p ++ "\n", { w with files := files })
  else (s.toToml.mapError fun e => .fault (.settings e), w)

/-- Carries out a command with settings that are valid. -/
def carryOut (s : Settings) (path : Option String) (command : Command) (w : World) :
    Except Failure String × World :=
  match command with
  | .config write => configure s write path w
  | command =>
    match Remote.ofSettings s with
    | .error e   => (.error (.fault (.settings e)), w)
    | .ok remote =>
      let (result, _, link) := screen remote.service command w.link
      (result, { w with link := link })

/-- Carries out a command line; without a command it lists. `standardPath` is the settings file
    unless another is named. The output comes with the settings that held. -/
def run (c : CommandLine) (standardPath : Option String) (w : World) :
    Except Failure (String × Settings) × World :=
  let path := c.configPath? standardPath
  match settings c path w.files with
  | .error f => (.error f, w)
  | .ok s    =>
    let (result, w) := carryOut s path (c.command.getD .list) w
    (result.map fun output => (output, s), w)

/-- What the program leaves behind besides files: an exit code, and the texts on the standard output
    and on the standard error. -/
structure Report where
  exitCode : Nat
  output   : String := ""
  failure  : String := ""
deriving DecidableEq, Repr

/-- Answers the arguments of the program. -/
def report (args : List String) (standardPath : Option String) (w : World) : Report × World :=
  match CommandLine.read args with
  | .error u => (⟨u.exitCode, u.output, u.complaintText⟩, w)
  | .ok c    =>
    match run c standardPath w with
    | (.ok (output, _), w) => ({ exitCode := 0, output := output }, w)
    | (.error f, w)        => ({ exitCode := 1, failure := f.report }, w)

end Program

end Postbox
