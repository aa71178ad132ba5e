import JournalSelect.Settings.Basic
import JournalSelect.Value

namespace JournalSelect

def Value.optionalText : Option String → Value
  | some s => .text s
  | none => .null

namespace Endpoint

def fields : List String :=
  ["listen_addr", "tls_enabled", "tls_2way", "tls_ca_file", "tls_key_file", "tls_cert_file"]

def toValue (e : Endpoint) : Value :=
  .map [
    (.text "listen_addr", .text e.address),
    (.text "tls_enabled", .bool e.tls),
    (.text "tls_2way", .bool e.twoWay),
    (.text "tls_ca_file", .optionalText e.authorityFile),
    (.text "tls_key_file", .optionalText e.keyFile),
    (.text "tls_cert_file", .optionalText e.certificateFile)]

end Endpoint

namespace Settings

def fields : List String := [
  "host_id",
  "host_lease_ttl_sec",
  "host_register_timeout_sec",
  "journals_dir",
  "public_api_rpc",
  "private_api_rpc"]

def toValue (s : Settings) : Value :=
  .map [
    (.text "host_id", .int s.hostId.toNat),
    (.text "host_lease_ttl_sec", .int s.leaseSeconds.toNat),
    (.text "host_register_timeout_sec", .int s.registrationSeconds.toNat),
    (.text "journals_dir", .text s.journalsDirectory),
    (.text "public_api_rpc", s.publicEndpoint.toValue),
    (.text "private_api_rpc", s.privateEndpoint.toValue)]

end Settings

def word16? (n : Int) : Option UInt16 :=
  if 0 ≤ n && n.toNat < UInt16.size then some (.ofNat n.toNat) else none

def word32? (n : Int) : Option UInt32 :=
  if 0 ≤ n && n.toNat < UInt32.size then some (.ofNat n.toNat) else none

-- A way to read the fields of settings: each reader takes the value that stands for a field.
structure FieldReaders where
  word16 : Value → Option UInt16
  word32 : Value → Option UInt32
  bool : Value → Option Bool
  text : Value → Option String

namespace FieldReaders

def optionalText (readers : FieldReaders) : Value → Option (Option String)
  | .null => some none
  | v => (readers.text v).map some

end FieldReaders

-- A field that is left out holds its default.
def orDefault (default : α) (read : Value → Option α) : Option Value → Option α
  | none => some default
  | some v => read v

def Endpoint.ofSlots? (readers : FieldReaders) : List (Option Value) → Option Endpoint
  | [address, tls, twoWay, authorityFile, keyFile, certificateFile] => do
    return {
      address := ← orDefault "" readers.text address
      tls := ← orDefault false readers.bool tls
      twoWay := ← orDefault false readers.bool twoWay
      authorityFile := ← orDefault none readers.optionalText authorityFile
      keyFile := ← orDefault none readers.optionalText keyFile
      certificateFile := ← orDefault none readers.optionalText certificateFile }
  | _ => none

def Settings.ofSlots? (readers : FieldReaders) (endpoint : Value → Option Endpoint) :
    List (Option Value) → Option Settings
  | [hostId, lease, registration, directory, publicEndpoint, privateEndpoint] => do
    return {
      hostId := ← orDefault default.hostId readers.word16 hostId
      leaseSeconds := ← orDefault default.leaseSeconds readers.word32 lease
      registrationSeconds := ← orDefault default.registrationSeconds readers.word32 registration
      journalsDirectory := ← orDefault default.journalsDirectory readers.text directory
      publicEndpoint := ← orDefault default.publicEndpoint endpoint publicEndpoint
      privateEndpoint := ← orDefault default.privateEndpoint endpoint privateEndpoint }
  | _ => none

def exactInt? : Value → Option Int
  | .int n => some n
  | _ => none

def exactBool? : Value → Option Bool
  | .bool b => some b
  | _ => none

def exactText? : Value → Option String
  | .text s => some s
  | _ => none

-- A field holds a value of its own kind and no other.
def FieldReaders.exact : FieldReaders where
  word16 v := (exactInt? v).bind word16?
  word32 v := (exactInt? v).bind word32?
  bool := exactBool?
  text := exactText?

def Endpoint.ofValue? (v : Value) : Option Endpoint :=
  (v.record? fields).bind (ofSlots? .exact)

def Settings.ofValue? (v : Value) : Option Settings :=
  (v.record? fields).bind (ofSlots? .exact Endpoint.ofValue?)

end JournalSelect
