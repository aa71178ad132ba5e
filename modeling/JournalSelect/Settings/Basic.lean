namespace JournalSelect

structure Endpoint where
  address : String
  tls : Bool
  twoWay : Bool
  authorityFile : Option String
  keyFile : Option String
  certificateFile : Option String
deriving DecidableEq, Repr

-- An identifier of zero is assigned later, and a registration timeout of zero is none.
structure Settings where
  hostId : UInt16
  leaseSeconds : UInt32
  registrationSeconds : UInt32
  journalsDirectory : String
  publicEndpoint : Endpoint
  privateEndpoint : Endpoint
deriving DecidableEq, Repr

namespace Endpoint

def listeningOn (address : String) : Endpoint where
  address := address
  tls := false
  twoWay := false
  authorityFile := none
  keyFile := none
  certificateFile := none

end Endpoint

def Settings.default : Settings where
  hostId := 0
  leaseSeconds := 5
  registrationSeconds := 0
  journalsDirectory := "/opt/logrange/db"
  publicEndpoint := .listeningOn "127.0.0.1:9966"
  privateEndpoint := .listeningOn "127.0.0.1:9967"

inductive EndpointFault where
  | noAddress
  | twoWayWithoutTls
  | noKeyPair
  | noAuthority
deriving DecidableEq, Repr

inductive SettingsFault where
  | noLease
  | noJournalsDirectory
  | endpoint (name : String) (fault : EndpointFault)
deriving DecidableEq, Repr

def EndpointFault.message : EndpointFault → String
  | noAddress => "listen address is empty"
  | twoWayWithoutTls => "2-way TLS requires TLS to be enabled"
  | noKeyPair => "TLS requires both a cert and a key file"
  | noAuthority => "2-way TLS requires a CA file"

def SettingsFault.message : SettingsFault → String
  | noLease => "Config: host lease TTL must be positive"
  | noJournalsDirectory => "Config: journals dir is empty"
  | endpoint name fault => "Config: " ++ name ++ ": " ++ fault.message

namespace Endpoint

-- The first fault of an endpoint, if it has one.
def fault? (e : Endpoint) : Option EndpointFault :=
  if e.address.isEmpty then some .noAddress
  else if e.twoWay && !e.tls then some .twoWayWithoutTls
  else if !e.tls then none
  else if e.certificateFile.isNone || e.keyFile.isNone then some .noKeyPair
  else if e.twoWay && e.authorityFile.isNone then some .noAuthority
  else none

end Endpoint

namespace Settings

def publicName : String :=
  "public RPC API"

def privateName : String :=
  "private RPC API"

def fault? (s : Settings) : Option SettingsFault :=
  if s.leaseSeconds = 0 then some .noLease
  else if s.journalsDirectory.isEmpty then some .noJournalsDirectory
  else
    (s.publicEndpoint.fault?.map (.endpoint publicName)).or
      (s.privateEndpoint.fault?.map (.endpoint privateName))

end Settings

end JournalSelect
