import Postbox.Decimal
import Postbox.Settings

/-!
# CommandLine — commands and options

  A command line has two levels: options before the command, and behind it the command's own options
  together with the same general ones. Each level is read by itself (`Level.scan`): switches,
  options with a value, and a positional value where the level takes one. What is given twice at one
  level is refused; of what is given at both levels the inner one holds.

  An option's value is the next argument, or stands behind an equals sign. It is looked at when the
  next option or value comes, or at the end (`Given.settle`); so an argument that nobody knows is
  refused before a value that is wrong.
-/

namespace Postbox

/-- Why a command line is not carried out: it asks for help or for the version, or it is refused. -/
inductive Usage
  | help
  | version
  | unknownArgument
  | missingArgument
  | unknownCommand
  | missingValue
  | wrongValue
  | repeated
  | surplusValue
deriving DecidableEq, Repr

/-- The exit code of a command line that is not carried out. -/
def Usage.exitCode : Usage → Nat
  | help | version => 0
  | _              => 2

/-- What is to be done. -/
inductive Command
  | list
  | show (id : String)
  | compose (text : String) (summary : Option String)
  | config (write : Bool)
deriving DecidableEq, Repr

/-- A command line that can be carried out: the general options and the command. -/
structure CommandLine where
  command    : Option Command := none
  debug      : Bool := false
  configFile : Option String := none
  baseUrl    : Option String := none
  csrfHeader : Option String := none
  csrfToken  : Option String := none
  timeout    : Option Nat := none
deriving DecidableEq, Repr

namespace CommandLine

/-! ## Levels -/

/-- What a level knows: its switches, its options, whether it takes a positional value, whether it
    tells the version, and the commands that end it. -/
structure Level where
  switches       : List String
  options        : List String
  takesValue     : Bool := false
  tellsVersion   : Bool := false
  commands       : List String := []

/-- What a level has been given: switches, options with their values, and a positional value. An
    option that came last is `pending` until its value has been looked at. -/
structure Given where
  switches : List String := []
  values   : List (String × String) := []
  value    : Option String := none
  pending  : Option (String × Option String) := none
deriving Repr

namespace Given

/-- The value of an option. -/
def get? (name : String) (g : Given) : Option String :=
  (g.values.find? fun v => v.1 == name).map Prod.snd

/-- Whether an option can have a value. -/
def check (name value : String) : Except Usage Unit :=
  if name == "config" && value.isEmpty then .error .missingValue
  else if name == "timeout" && (Decimal.nat64? value.toList).isNone then .error .wrongValue
  else .ok ()

/-- Adds an option with its value. -/
def add (name value : String) (g : Given) : Except Usage Given := do
  if (g.get? name).isSome then throw .repeated
  check name value
  return { g with values := g.values ++ [(name, value)] }

/-- Looks at the pending option. -/
def settle (g : Given) : Except Usage Given :=
  match g.pending with
  | none                    => .ok g
  | some (_, none)          => .error .missingValue
  | some (name, some value) => { g with pending := none }.add name value

/-- Adds a switch. -/
def addSwitch (name : String) (g : Given) : Except Usage Given := do
  let g ← g.settle
  if g.switches.contains name then throw .repeated
  return { g with switches := g.switches ++ [name] }

/-- Whether the next argument is the value of an option. -/
def awaitsValue (g : Given) : Bool := g.pending.any fun p => p.2.isNone

end Given

namespace Level

/-- Reads an option that begins with two hyphens, perhaps with a value behind an equals sign. -/
def long (l : Level) (name : String) (value : Option String) (g : Given) : Except Usage Given :=
  if l.options.contains name then
    match value with
    | some v => do (← g.settle).add name v
    | none   => do return { (← g.settle) with pending := some (name, none) }
  else if l.switches.contains name || name == "help" || (name == "version" && l.tellsVersion) then
    if value.isSome then .error .surplusValue
    else if name == "help" then do
      let _ ← g.settle
      throw .help
    else if name == "version" then do
      let _ ← g.settle
      throw .version
    else g.addSwitch name
  else .error .unknownArgument

/-- Reads the first of the letters behind one hyphen; each that is known ends the reading. -/
def short (l : Level) (letter : Char) (g : Given) : Except Usage Given := do
  if letter == 'h' then
    let _ ← g.settle
    throw .help
  else if letter == 'V' && l.tellsVersion then
    let _ ← g.settle
    throw .version
  else throw .unknownArgument

/-- Reads an argument that is no option and no command. Behind two hyphens a command's name is no
    command. -/
def plain (l : Level) (behindHyphens : Bool) (arg : String) (g : Given) : Except Usage Given :=
  if l.takesValue && g.value.isNone then do return { (← g.settle) with value := some arg }
  else if behindHyphens && l.commands.contains arg then .error .unknownArgument
  else if l.commands.isEmpty then .error .unknownArgument
  else .error .unknownCommand

/-- An option's name and its value, where it has one behind an equals sign. -/
def splitValue (cs : List Char) : String × Option String :=
  let name := cs.takeWhile (· != '=')
  (String.ofList name,
    if name.length < cs.length then some (String.ofList (cs.drop (name.length + 1))) else none)

/-- Reads arguments up to a command, and gives what the level was given, and the command with the
    arguments behind it. -/
def scan (l : Level) (behindHyphens : Bool) (g : Given) :
    List String → Except Usage (Given × Option (String × List String))
  | [] => .ok (g, none)
  | arg :: rest =>
    if behindHyphens then do l.scan true (← l.plain true arg g) rest
    else if !g.awaitsValue && l.commands.contains arg then .ok (g, some (arg, rest))
    else
      match arg.toList with
      | ['-', '-']       => l.scan true g rest
      | '-' :: '-' :: cs => do
        let (name, value) := splitValue cs
        l.scan false (← l.long name value g) rest
      | '-' :: c :: _    => do l.scan false (← l.short c g) rest
      | _                =>
        match g.pending with
        | some (name, none) => l.scan false { g with pending := some (name, some arg) } rest
        | _                 => do l.scan false (← l.plain false arg g) rest

end Level

/-! ## The two levels -/

/-- Switches that can stand at both levels. -/
def generalSwitches : List String := ["debug"]

/-- Options that can stand at both levels. -/
def generalOptions : List String := ["config", "base-url", "csrf-header", "csrf-token", "timeout"]

/-- The level before the command. -/
def outer : Level where
  switches     := generalSwitches
  options      := generalOptions
  tellsVersion := true
  commands     := ["list", "show", "compose", "config", "help"]

/-- The level behind a command. -/
def inner (command : String) : Level where
  switches   := generalSwitches ++ (if command == "config" then ["write"] else [])
  options    := generalOptions ++ (if command == "compose" then ["text", "summary"] else [])
  takesValue := command == "show"

/-- A level that is complete: its last option has its value, and of the CSRF header's two options
    both are given or none. -/
def complete (g : Given) : Except Usage Given := do
  let g ← g.settle
  if (g.get? "csrf-header").isSome != (g.get? "csrf-token").isSome then throw .missingArgument
  return g

/-- The command that a complete level behind its name stands for. -/
def commandOf (name : String) (g : Given) : Except Usage Command :=
  match name with
  | "show" =>
    match g.value with
    | some id => .ok (.show id)
    | none    => .error .missingArgument
  | "compose" =>
    match g.get? "text" with
    | some text => .ok (.compose text (g.get? "summary"))
    | none      => .error .missingArgument
  | "config" => .ok (.config (g.switches.contains "write"))
  | _        => .ok .list

/-- What is asked for behind the word for help: nothing, or one command. -/
def helpOn : List String → Usage
  | []     => .help
  | [name] => if outer.commands.contains name then .help else .unknownCommand
  | _      => .unknownCommand

/-- The command line made up of what both levels were given; the inner one comes first. -/
def ofLevels (command : Option Command) (before behind : Given) : CommandLine :=
  let value (name : String) : Option String := (behind.get? name).or (before.get? name)
  { command    := command
    debug      := behind.switches.contains "debug" || before.switches.contains "debug"
    configFile := value "config"
    baseUrl    := value "base-url"
    csrfHeader := value "csrf-header"
    csrfToken  := value "csrf-token"
    timeout    := (value "timeout").bind fun v => Decimal.nat64? v.toList }

/-- The command line that arguments stand for. The level behind a command is read before the one in
    front of it is looked at as a whole. -/
def read (args : List String) : Except Usage CommandLine := do
  match ← outer.scan false {} args with
  | (before, none) => return ofLevels none (← complete before) {}
  | (before, some (name, rest)) =>
    if name == "help" then throw (helpOn rest)
    let (behind, _) ← (inner name).scan false {} rest
    let behind ← complete behind
    let command ← commandOf name behind
    return ofLevels (some command) (← complete before) behind

/-- The path of the settings file: the one that is named, or else the standard one. -/
def configPath? (standardPath : Option String) (c : CommandLine) : Option String :=
  c.configFile.or standardPath

/-- The settings with the values that the options give in place of their own. The CSRF header's two
    values go together. -/
def override (c : CommandLine) (s : Settings) : Settings :=
  { s with
    baseUrl     := c.baseUrl.getD s.baseUrl
    timeoutSecs := c.timeout.or s.timeoutSecs
    csrf        := match c.csrfHeader, c.csrfToken with
      | some header, some token => some ⟨header, token⟩
      | _, _                    => s.csrf }

end CommandLine

end Postbox
