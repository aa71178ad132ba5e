import JournalSelect.CommandLine.Invocation
import JournalSelect.Json.Printer
import JournalSelect.Selection
import JournalSelect.Settings.File

namespace JournalSelect

def lines (texts : List String) : String :=
  String.join (texts.map (· ++ "\n"))

namespace Settings

-- The settings that are in effect: the defaults, then a file, then the options. They have to be valid only
-- as a whole.
def effective (files : Files) (path : String) (options : CommandLine.ConfigOptions) :
    Except Failure Settings := do
  let settings := (← load files path).apply options.overrides
  match settings.fault? with
  | some fault => throw (.settingsInvalid fault)
  | none => return settings

-- The settings as an indented text.
def print (s : Settings) : String :=
  String.ofList (Json.pretty 0 s.toValue)

end Settings

-- What is written before a failure stays written.
abbrev Output := ExceptT Failure (StateM String)

namespace Output

def write (text : String) : Output Unit :=
  modify (· ++ text)

def writeLine (text : String) : Output Unit := do
  write text
  write "\n"

-- The result, and all that is written by then if there is some text already.
def outcome (work : Output Unit) (before : String) : Except Failure Unit × String :=
  work.run.run before

end Output

structure Response where
  exitCode : UInt32
  output : String
  failure : Option Failure

def versionText : String :=
  "logrange 0.1.0\n"

def helpText : String := lines [
  "Log Aggregation Service",
  "",
  "Usage: logrange [OPTIONS] <COMMAND>",
  "",
  "Commands:",
  "  config  Print the effective server configuration as JSON",
  "  select  List the journals whose tags match a tags expression",
  "  help    Print this message or the help of the given subcommand(s)",
  "",
  "Options:",
  "      --config-file <CONFIG_FILE>  The logrange configuration file (YAML or JSON) "
    ++ "[env: LOGRANGE_CONFIG_FILE=] [default: " ++ CommandLine.defaultConfigFile ++ "]",
  "  -t, --threads <THREADS>          Number of threads (default: all cores)",
  "  -v, --verbose                    Enable verbose output",
  "  -h, --help                       Print help",
  "  -V, --version                    Print version"]

namespace CommandLine

def Command.run (files : Files) (configFile : String) : Command → Output Unit
  | config options => do
    let settings ← Settings.effective files configFile options
    Output.writeLine settings.print
  | select catalog filter => do
    let names ← selectJournals files catalog filter
    names.forM Output.writeLine

def Invocation.outcome (files : Files) (invocation : Invocation) : Except Failure Unit × String :=
  (invocation.command.run files invocation.configFile).outcome ""

def Invocation.run (files : Files) (invocation : Invocation) : Except Failure String :=
  let (result, output) := invocation.outcome files
  result.map fun _ => output

-- The files that a command may look at.
def Invocation.paths (invocation : Invocation) : List String :=
  match invocation.command with
  | .config _ => [invocation.configFile]
  | .select catalog filter => catalog :: filter.toList

def Halt.response : Halt → Response
  | help => ⟨0, helpText, none⟩
  | version => ⟨0, versionText, none⟩
  | _ => ⟨2, "", none⟩

def Invocation.respond (files : Files) (invocation : Invocation) : Response :=
  match invocation.outcome files with
  | (.ok _, output) => ⟨0, output, none⟩
  | (.error failure, output) => ⟨1, output, some failure⟩

end CommandLine

end JournalSelect
