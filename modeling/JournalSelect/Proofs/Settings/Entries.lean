import JournalSelect.Proofs.Json.Reading
import JournalSelect.Proofs.Settings.Layer
import JournalSelect.Proofs.Settings.Setting
import JournalSelect.Proofs.Text.Utf8
import JournalSelect.Settings.File

namespace JournalSelect

-- What a file says of an endpoint. It may also say that there is no certificate, and so on.
structure EndpointEntries where
  address : Option String
  tls : Option Bool
  twoWay : Option Bool
  authorityFile : Option (Option String)
  keyFile : Option (Option String)
  certificateFile : Option (Option String)

structure SettingsEntries where
  hostId : Option UInt16
  leaseSeconds : Option UInt32
  registrationSeconds : Option UInt32
  journalsDirectory : Option String
  publicEndpoint : Option EndpointEntries
  privateEndpoint : Option EndpointEntries

def EndpointEntries.get? (e : EndpointEntries) : (part : EndpointSetting) → Option part.Held
  | .address         => e.address
  | .tls             => e.tls
  | .twoWay          => e.twoWay
  | .authorityFile   => e.authorityFile
  | .keyFile         => e.keyFile
  | .certificateFile => e.certificateFile

-- What is said about a setting, if anything is. A file that does not mention an endpoint says nothing about it.
def SettingsEntries.get? (e : SettingsEntries) : (k : Setting) → Option k.Held
  | .hostId               => e.hostId
  | .leaseSeconds         => e.leaseSeconds
  | .registrationSeconds  => e.registrationSeconds
  | .journalsDirectory    => e.journalsDirectory
  | .publicEndpoint part  => e.publicEndpoint.bind (·.get? part)
  | .privateEndpoint part => e.privateEndpoint.bind (·.get? part)

-- A mapping leaves a field out, or it gives one value of the kind that the field has.
inductive Value.Gives (entries : List (Value × Value)) (field : String) (kind : Value → α → Prop) :
    Option α → Prop
  | nothing : valuesOf field entries = [] → Gives entries field kind none
  | just {v a} : valuesOf field entries = [v] → kind v a → Gives entries field kind (some a)

open Value (Gives)

structure EndpointEntries.ReadFrom (entries : List (Value × Value)) (e : EndpointEntries) : Prop where
  address         : Gives entries "listen_addr" (· = .text ·) e.address
  tls             : Gives entries "tls_enabled" (· = .bool ·) e.tls
  twoWay          : Gives entries "tls_2way" (· = .bool ·) e.twoWay
  authorityFile   : Gives entries "tls_ca_file" (· = .optionalText ·) e.authorityFile
  keyFile         : Gives entries "tls_key_file" (· = .optionalText ·) e.keyFile
  certificateFile : Gives entries "tls_cert_file" (· = .optionalText ·) e.certificateFile

def EndpointEntries.ReadFromValue (v : Value) (e : EndpointEntries) : Prop :=
  ∃ entries, v = .map entries ∧ e.ReadFrom entries

structure SettingsEntries.ReadFrom (entries : List (Value × Value)) (s : SettingsEntries) : Prop where
  hostId              : Gives entries "host_id" (· = .int ·.toNat) s.hostId
  leaseSeconds        : Gives entries "host_lease_ttl_sec" (· = .int ·.toNat) s.leaseSeconds
  registrationSeconds : Gives entries "host_register_timeout_sec" (· = .int ·.toNat) s.registrationSeconds
  journalsDirectory   : Gives entries "journals_dir" (· = .text ·) s.journalsDirectory
  publicEndpoint      : Gives entries "public_api_rpc" EndpointEntries.ReadFromValue s.publicEndpoint
  privateEndpoint     : Gives entries "private_api_rpc" EndpointEntries.ReadFromValue s.privateEndpoint

-- What the file at a path says. A missing file says nothing.
inductive SettingsEntries.FoundAt (files : Files) (path : String) : SettingsEntries → Prop
  | missing : files path = .missing → FoundAt files path ⟨none, none, none, none, none, none⟩
  | file {content format layer entries} :
    files path = .file content → SettingsFormat.ofPath? path = some format →
    format.layer? (withoutByteOrderMark (Files.lenientText content)) = some layer →
    (∀ entry ∈ layer, ∃ name, entry.1 = .text name ∧ IsPlainName name) → entries.ReadFrom layer →
    FoundAt files path entries

theorem withoutByteOrderMark_of_brace {text : String} {cs : List Char} (h : text.toList = '\x7b' :: cs) :
    withoutByteOrderMark text = text := by
  rw [withoutByteOrderMark, h]
  rfl

-- A printed mapping is such a file. Its entries are found in ascending order.
theorem SettingsEntries.FoundAt.of_pretty {files : Files} {path text : String} {bs : List Char}
    {entries : List (Value × Value)} {e : SettingsEntries} (hf : files path = .file text.toUTF8)
    (hx : Files.extension? path = some "json") (ht : text.toList = Json.pretty 0 (.map entries) ++ bs)
    (hb : ∀ c ∈ bs, Json.isBlank c = true) (hv : (Value.map entries).Sayable Json.maxDepth)
    (hp : ∀ entry ∈ Value.orderedEntries [] entries, ∃ name, entry.1 = .text name ∧ IsPlainName name)
    (hr : e.ReadFrom (Value.orderedEntries [] entries)) : e.FoundAt files path := by
  have hj : SettingsFormat.ofPath? path = some .json := by simp [SettingsFormat.ofPath?, hx]
  have ⟨cs, hc⟩ : ∃ cs, text.toList = '\x7b' :: cs := by
    rw [ht, Json.pretty, Json.block]
    split <;> exact ⟨_, rfl⟩
  refine .file hf hj ?_ hp hr
  rw [Files.lenientText_toUTF8, withoutByteOrderMark_of_brace hc, SettingsFormat.layer?]
  rw [Json.read?_pretty ht hb hv, Value.ordered]
  rfl

end JournalSelect
