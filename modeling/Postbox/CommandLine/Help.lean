import Postbox.CommandLine
import Postbox.Screen

/-!
# Help — what a command line that is not carried out is answered with

  The help screen and the version go to the standard output; whatever is refused is told on the
  standard error, with a pointer to the help screen.
-/

namespace Postbox.Usage

open Screen

/-- The program's name and version. -/
def versionText : String := line "message-inbox 0.1.0"

/-- The commands and what they do. -/
def commandHelp : List (String × String) :=
  [("list", "Show the inbox"),
   ("show <ID>", "Show a single message"),
   ("compose --text <TEXT>", "Compose and save a new message; --summary <SUMMARY> adds a summary"),
   ("config", "Show the effective configuration; --write writes it to the config file"),
   ("help", "Show this screen")]

/-- The general options and what they do. -/
def optionHelp : List (String × String) :=
  [("--debug", "Enable debug logging"),
   ("--config <FILE>", "Configuration file path"),
   ("--base-url <URL>", "Override the service base URL"),
   ("--csrf-header <NAME>", "CSRF header name sent with every request"),
   ("--csrf-token <TOKEN>", "CSRF token value"),
   ("--timeout <SECONDS>", "Request timeout in seconds"),
   ("-h, --help", "Show this screen"),
   ("-V, --version", "Show the version")]

/-- The help screen. -/
def helpText : String :=
  let row (entry : String × String) : String := line ("  " ++ alignLeft 24 entry.1 ++ entry.2)
  line "Inbox, detail and compose views for a message REST service" ++ line "" ++
  line "Usage: message-inbox [OPTIONS] [COMMAND]" ++ line "" ++
  line "Commands:" ++ String.join (commandHelp.map row) ++ line "" ++
  line "Options:" ++ String.join (optionHelp.map row)

/-- What goes to the standard output. -/
def output : Usage → String
  | help    => helpText
  | version => versionText
  | _       => ""

/-- What is wrong with a command line that is refused. -/
def complaint? : Usage → Option String
  | help | version  => none
  | unknownArgument => some "an argument is unknown"
  | missingArgument => some "a required argument is missing"
  | unknownCommand  => some "the command is unknown"
  | missingValue    => some "an option has no value"
  | wrongValue      => some "the value of an option is wrong"
  | repeated        => some "an argument is repeated"
  | surplusValue    => some "a switch has a value"

/-- What goes to the standard error. -/
def complaintText (u : Usage) : String :=
  match u.complaint? with
  | none      => ""
  | some text =>
    line ("error: " ++ text) ++ line "" ++ line "For more information, try --help."

end Postbox.Usage
