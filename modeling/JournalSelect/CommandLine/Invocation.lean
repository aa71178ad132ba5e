import JournalSelect.CommandLine.Options

namespace JournalSelect.CommandLine

inductive Command where
  | config (options : ConfigOptions)
  | select (catalog : String) (filter : Option String)
deriving DecidableEq, Repr

-- The command to run, and what holds for every command.
structure Invocation where
  configFile : String
  threads : Option UInt64
  verbose : Bool
  command : Command
deriving DecidableEq, Repr

def defaultConfigFile : String :=
  "/opt/logrange/config.yaml"

def commandWords : List String :=
  ["config", "select", "help"]

-- Where an option may come from. A later source counts for more.
inductive Source where
  | default
  | environment
  | argument
deriving DecidableEq, Repr

-- A level once all of its arguments are read.
structure Settled (α : Type) where
  given : Given α
  configFile : String
  source : Source

-- The environment may name the settings file for a level that does not.
def settleLevel (environment : Option String) (r : Reading (Given α)) : Except Halt (Settled α) := do
  let given ← r.settle
  match given.configFile, environment with
  | some path, _ => return ⟨given, path, .argument⟩
  | none, some path => return ⟨given, ← path? path, .environment⟩
  | none, none => return ⟨given, defaultConfigFile, .default⟩

-- The rest of the arguments at the level of a command, which takes no words.
def readCommand (level : Level (Given α)) (nothing : α) (environment : Option String)
    (args : List String) : Except Halt (Settled α) := do
  let (r, _, rest) ← level.read args (.start (.nothing nothing))
  if rest.isEmpty then settleLevel environment r else throw .unknownArgument

-- What is given at the level of the command counts for more than what is given before it, as long as it
-- comes from the same source.
def Settled.configFileUnder (top : Settled Unit) (sub : Settled α) : String :=
  if top.source = .argument && sub.source != .argument then top.configFile else sub.configFile

def invocation (top : Settled Unit) (sub : Settled α) (command : Command) : Invocation where
  configFile := top.configFileUnder sub
  threads := sub.given.threads.or top.given.threads
  verbose := top.given.verbose || sub.given.verbose
  command := command

-- Help names a command, or no command at all.
def helpOn : List String → Halt
  | [] => .help
  | [word] => if commandWords.contains word then .help else .unknownCommand
  | _ => .unknownCommand

-- The level of the command is settled before the level above it.
def Invocation.read (environment : Option String) (args : List String) : Except Halt Invocation := do
  let (r, escaped, rest) ← topLevel.read args (.start (.nothing ()))
  match escaped, rest with
  | _, [] =>
    let top ← settleLevel environment r
    throw (if top.given.isExplicit || top.source != .default then .noCommand else .nothingGiven)
  | true, word :: _ =>
    throw (if commandWords.contains word then .unknownArgument else .unknownCommand)
  | false, "help" :: words => throw (helpOn words)
  | false, "config" :: args =>
    let sub ← readCommand configLevel .none environment args
    let top ← settleLevel environment r
    return invocation top sub (.config sub.given.command)
  | false, "select" :: args =>
    let sub ← readCommand selectLevel ⟨none, none⟩ environment args
    match sub.given.command.journals with
    | none => throw .missingOption
    | some catalog =>
      let top ← settleLevel environment r
      return invocation top sub (.select catalog sub.given.command.filter)
  | false, _ => throw .unknownCommand

end JournalSelect.CommandLine
