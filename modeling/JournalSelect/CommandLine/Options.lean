import JournalSelect.CommandLine.Level
import JournalSelect.Settings.Encoding
import JournalSelect.Settings.Overrides
import JournalSelect.Text.Numeral

namespace JournalSelect.CommandLine

-- What was given at one level: the options that every level knows, and those of its command.
structure Given (α : Type) where
  configFile : Option String
  threads : Option UInt64
  verbose : Bool
  command : α

-- Each setting has an option of its own, also those of the two endpoints.
structure ConfigOptions where
  hostId : Option UInt16
  leaseSeconds : Option UInt32
  registrationSeconds : Option UInt32
  journalsDirectory : Option String
  publicAddress : Option String
  publicTls : Option Bool
  publicTwoWay : Option Bool
  publicAuthorityFile : Option String
  publicKeyFile : Option String
  publicCertificateFile : Option String
  privateAddress : Option String
  privateTls : Option Bool
  privateTwoWay : Option Bool
  privateAuthorityFile : Option String
  privateKeyFile : Option String
  privateCertificateFile : Option String
deriving DecidableEq, Repr

structure SelectOptions where
  journals : Option String
  filter : Option String

namespace ConfigOptions

def none : ConfigOptions where
  hostId := .none
  leaseSeconds := .none
  registrationSeconds := .none
  journalsDirectory := .none
  publicAddress := .none
  publicTls := .none
  publicTwoWay := .none
  publicAuthorityFile := .none
  publicKeyFile := .none
  publicCertificateFile := .none
  privateAddress := .none
  privateTls := .none
  privateTwoWay := .none
  privateAuthorityFile := .none
  privateKeyFile := .none
  privateCertificateFile := .none

def overrides (o : ConfigOptions) : Overrides where
  hostId := o.hostId
  leaseSeconds := o.leaseSeconds
  registrationSeconds := o.registrationSeconds
  journalsDirectory := o.journalsDirectory
  publicEndpoint := {
    address := o.publicAddress
    tls := o.publicTls
    twoWay := o.publicTwoWay
    authorityFile := o.publicAuthorityFile
    keyFile := o.publicKeyFile
    certificateFile := o.publicCertificateFile }
  privateEndpoint := {
    address := o.privateAddress
    tls := o.privateTls
    twoWay := o.privateTwoWay
    authorityFile := o.privateAuthorityFile
    keyFile := o.privateKeyFile
    certificateFile := o.privateCertificateFile }

end ConfigOptions

namespace Given

def nothing (command : α) : Given α where
  configFile := none
  threads := none
  verbose := false
  command := command

-- Whether anything was given that is no option of a command.
def isExplicit (given : Given α) : Bool :=
  given.configFile.isSome || given.threads.isSome || given.verbose

end Given

def path? (s : String) : Except Halt String :=
  if s.isEmpty then .error .unusableValue else .ok s

def text? (s : String) : Except Halt String :=
  .ok s

def bool? (s : String) : Except Halt Bool :=
  if s = "true" then .ok true else if s = "false" then .ok false else .error .unusableValue

def orMalformed : Option α → Except Halt α
  | some a => .ok a
  | none => .error .malformedValue

def word16? (s : String) : Except Halt UInt16 :=
  orMalformed ((Text.signed? 10 s.toList).bind JournalSelect.word16?)

def word32? (s : String) : Except Halt UInt32 :=
  orMalformed ((Text.signed? 10 s.toList).bind JournalSelect.word32?)

def word64? (s : String) : Except Halt UInt64 :=
  orMalformed ((Text.unsigned? 10 s.toList).bind fun n =>
    if n < UInt64.size then some (.ofNat n) else none)

-- Reads a value with `parse` into a place that must be empty.
def storeWith (parse : String → Except Halt α) (get : σ → Option α) (set : σ → α → σ) (value : String)
    (given : σ) : Except Halt σ :=
  if (get given).isSome then .error .repeated else (parse value).map (set given)

def configFileOption : ValueOption (Given α) where
  long := "config-file"
  short := none
  store := storeWith path? (·.configFile) fun given path => { given with configFile := some path }

def threadsOption : ValueOption (Given α) where
  long := "threads"
  short := some 't'
  store := storeWith word64? (·.threads) fun given n => { given with threads := some n }

def verboseFlag : Flag (Given α) where
  long := "verbose"
  short := 'v'
  raise given := if given.verbose then .error .repeated else .ok { given with verbose := true }

def helpFlag : Flag (Given α) where
  long := "help"
  short := 'h'
  raise _ := .error .help

def versionFlag : Flag (Given α) where
  long := "version"
  short := 'V'
  raise _ := .error .version

-- The level of a command with the given options of its own.
def levelOf (own : List (ValueOption (Given α))) : Level (Given α) where
  options := [configFileOption, threadsOption] ++ own
  flags := [verboseFlag, helpFlag]

def topLevel : Level (Given Unit) where
  options := [configFileOption, threadsOption]
  flags := [verboseFlag, helpFlag, versionFlag]

-- An option of a command that only a long name has.
def ownOption (long : String) (parse : String → Except Halt β) (get : α → Option β) (set : α → β → α) :
    ValueOption (Given α) where
  long := long
  short := none
  store := storeWith parse (get ·.command) fun given b => { given with command := set given.command b }

def hostOptions : List (ValueOption (Given ConfigOptions)) := [
  ownOption "host-id" word16? (·.hostId) fun o n => { o with hostId := some n },
  ownOption "host-lease-ttl" word32? (·.leaseSeconds) fun o n => { o with leaseSeconds := some n },
  ownOption "host-registration-timeout" word32? (·.registrationSeconds)
    fun o n => { o with registrationSeconds := some n },
  ownOption "journals-dir" path? (·.journalsDirectory)
    fun o path => { o with journalsDirectory := some path }]

def publicOptions : List (ValueOption (Given ConfigOptions)) := [
  ownOption "pb-api-rpc-listen-on" text? (·.publicAddress)
    fun o s => { o with publicAddress := some s },
  ownOption "pb-api-rpc-tls-enabled" bool? (·.publicTls) fun o b => { o with publicTls := some b },
  ownOption "pb-api-rpc-tls-2w" bool? (·.publicTwoWay) fun o b => { o with publicTwoWay := some b },
  ownOption "pb-api-rpc-tls-ca" path? (·.publicAuthorityFile)
    fun o path => { o with publicAuthorityFile := some path },
  ownOption "pb-api-rpc-tls-key" path? (·.publicKeyFile)
    fun o path => { o with publicKeyFile := some path },
  ownOption "pb-api-rpc-tls-cert" path? (·.publicCertificateFile)
    fun o path => { o with publicCertificateFile := some path }]

def privateOptions : List (ValueOption (Given ConfigOptions)) := [
  ownOption "prvt-api-rpc-listen-on" text? (·.privateAddress)
    fun o s => { o with privateAddress := some s },
  ownOption "prvt-api-rpc-tls-enabled" bool? (·.privateTls) fun o b => { o with privateTls := some b },
  ownOption "prvt-api-rpc-tls-2w" bool? (·.privateTwoWay) fun o b => { o with privateTwoWay := some b },
  ownOption "prvt-api-rpc-tls-ca" path? (·.privateAuthorityFile)
    fun o path => { o with privateAuthorityFile := some path },
  ownOption "prvt-api-rpc-tls-key" path? (·.privateKeyFile)
    fun o path => { o with privateKeyFile := some path },
  ownOption "prvt-api-rpc-tls-cert" path? (·.privateCertificateFile)
    fun o path => { o with privateCertificateFile := some path }]

def configLevel : Level (Given ConfigOptions) :=
  levelOf (hostOptions ++ publicOptions ++ privateOptions)

def selectLevel : Level (Given SelectOptions) :=
  levelOf [
    { ownOption "journals" path? (·.journals) fun o path => { o with journals := some path } with
      short := some 'j' },
    { ownOption "filter" path? (·.filter) fun o path => { o with filter := some path } with
      short := some 'f' }]

end JournalSelect.CommandLine
