import JournalSelect.Proofs.Except
import JournalSelect.Proofs.Settings.Entries
import JournalSelect.Program
import Mathlib.Tactic.MkIffOfInductiveProp

namespace JournalSelect

open CommandLine (ConfigOptions)
open Value (Gives)

-- What a setting holds: the value that an option gives for it, or else what a file says about it, or else its
-- default. No other setting counts.
def Setting.layered (k : Setting) (entries : SettingsEntries) (o : ConfigOptions) : k.Held :=
  match o.get? k, entries.get? k with
  | some given, _   => k.holding given
  | none, some said => said
  | none, none      => Settings.default.get k

@[mk_iff]
structure Endpoint.Valid (e : Endpoint) : Prop where
  address   : e.address ≠ ""
  tls       : e.twoWay = true → e.tls = true
  keyPair   : e.tls = true → e.certificateFile ≠ none ∧ e.keyFile ≠ none
  authority : e.twoWay = true → e.authorityFile ≠ none

@[mk_iff]
structure Settings.Valid (s : Settings) : Prop where
  lease             : 0 < s.leaseSeconds
  journalsDirectory : s.journalsDirectory ≠ ""
  publicEndpoint    : s.publicEndpoint.Valid
  privateEndpoint   : s.privateEndpoint.Valid

theorem Endpoint.fault?_eq_none_iff {e : Endpoint} : e.fault? = none ↔ e.Valid := by
  rw [Endpoint.valid_iff]
  cases ht : e.tls <;> cases hw : e.twoWay <;> simp [fault?, ht, hw] <;> grind

theorem Settings.fault?_eq_none_iff {s : Settings} : s.fault? = none ↔ s.Valid := by
  rw [Settings.valid_iff, ←Endpoint.fault?_eq_none_iff, ←Endpoint.fault?_eq_none_iff]
  simp only [fault?, UInt32.pos_iff_ne_zero, String.isEmpty_iff]
  grind [Option.or_eq_none_iff, Option.map_eq_none_iff]

namespace Value.Gives

variable {layer : List (Value × Value)} {field : String}

-- A scalar replaces what it is laid over.
theorem named?_of_written {given : Option α} {write : α → Value} {old : α}
    (h : Gives layer field (· = write ·) given) (base : List (Value × Value))
    (hb : named? field base = some (write old)) (hw : ∀ a v, laidOver (write a) v = write a) :
    named? field (entriesOver layer base) = some (write (given.getD old)) := by
  rw [named?_entriesOver, hb]
  cases h
  case nothing hn  => simp [hn]
  case just hv hvw => simp [hv, hvw, hw]

theorem named?_of_nothing {kind : Value → α → Prop} (h : Gives layer field kind none)
    (base : List (Value × Value)) :
    named? field (entriesOver layer base) = named? field base := by
  cases h
  case nothing hn => simp [named?_entriesOver, hn]

theorem named?_of_just {kind : Value → α → Prop} {a : α} (h : Gives layer field kind (some a))
    (base : List (Value × Value)) :
    ∃ v, kind v a ∧
      named? field (entriesOver layer base) = some (laidOver v ((named? field base).getD .null)) := by
  cases h
  case just v hv hk => exact ⟨v, hk, by simp [named?_entriesOver, hv]⟩

end Value.Gives

theorem laidOver_optionalText (o : Option String) (v : Value) :
    Value.laidOver (.optionalText o) v = .optionalText o := by
  cases o <;> simp [Value.optionalText, Value.laidOver]

namespace FieldReaders

@[simp]
theorem lenient_text (s : String) : lenient.text (.text s) = some s :=
  rfl

@[simp]
theorem lenient_bool (b : Bool) : lenient.bool (.bool b) = some b :=
  rfl

@[simp]
theorem lenient_word16 (n : UInt16) : lenient.word16 (.int n.toNat) = some n := by
  simp [lenient, Lenient.natural?, word16?, n.toNat_lt]

@[simp]
theorem lenient_word32 (n : UInt32) : lenient.word32 (.int n.toNat) = some n := by
  simp [lenient, Lenient.natural?, word32?, n.toNat_lt]

@[simp]
theorem lenient_optionalText (o : Option String) : lenient.optionalText (.optionalText o) = some o := by
  cases o <;> simp [Value.optionalText, optionalText, lenient, Lenient.text?]

end FieldReaders

-- With what a file says in place of its own.
def Endpoint.overlaid (e : Endpoint) (entries : EndpointEntries) : Endpoint where
  address := entries.address.getD e.address
  tls := entries.tls.getD e.tls
  twoWay := entries.twoWay.getD e.twoWay
  authorityFile := entries.authorityFile.getD e.authorityFile
  keyFile := entries.keyFile.getD e.keyFile
  certificateFile := entries.certificateFile.getD e.certificateFile

def Settings.overlaid (s : Settings) (entries : SettingsEntries) : Settings where
  hostId := entries.hostId.getD s.hostId
  leaseSeconds := entries.leaseSeconds.getD s.leaseSeconds
  registrationSeconds := entries.registrationSeconds.getD s.registrationSeconds
  journalsDirectory := entries.journalsDirectory.getD s.journalsDirectory
  publicEndpoint := (entries.publicEndpoint.map s.publicEndpoint.overlaid).getD s.publicEndpoint
  privateEndpoint := (entries.privateEndpoint.map s.privateEndpoint.overlaid).getD s.privateEndpoint

variable {layer : List (Value × Value)}

theorem Endpoint.lenient?_laidOver {entries : EndpointEntries} (h : entries.ReadFrom layer)
    (e : Endpoint) :
    Endpoint.lenient? (Value.laidOver (.map layer) e.toValue) = some (e.overlaid entries) := by
  have ha := h.address.named?_of_written e.toValue.entries rfl (by simp [Value.laidOver])
  have ht := h.tls.named?_of_written e.toValue.entries rfl (by simp [Value.laidOver])
  have hw := h.twoWay.named?_of_written e.toValue.entries rfl (by simp [Value.laidOver])
  have hc := h.authorityFile.named?_of_written e.toValue.entries rfl laidOver_optionalText
  have hk := h.keyFile.named?_of_written e.toValue.entries rfl laidOver_optionalText
  have hf := h.certificateFile.named?_of_written e.toValue.entries rfl laidOver_optionalText
  simp [Value.laidOver, lenient?, Value.slots?, fields, ofSlots?, orDefault, overlaid, ha, ht, hw, hc,
    hk, hf]

theorem Endpoint.lenient?_toValue (e : Endpoint) : Endpoint.lenient? e.toValue = some e := by
  simp [toValue, lenient?, Value.slots?, fields, ofSlots?, orDefault, Value.named?, Value.hasName]

theorem exists_lenient?_endpoint {field : String} {given : Option EndpointEntries} {e : Endpoint}
    (h : Gives layer field EndpointEntries.ReadFromValue given)
    (base : List (Value × Value)) (hb : Value.named? field base = some e.toValue) :
    ∃ v, Value.named? field (Value.entriesOver layer base) = some v ∧
      Endpoint.lenient? v = some ((given.map e.overlaid).getD e) := by
  cases given
  case none => exact ⟨_, (h.named?_of_nothing base).trans hb, e.lenient?_toValue⟩
  case some =>
    have ⟨v, ⟨entries, hv, hr⟩, hn⟩ := h.named?_of_just base
    refine ⟨_, hn, ?_⟩
    rw [hb, hv]
    exact Endpoint.lenient?_laidOver hr e

theorem Settings.lenient?_laidOver {entries : SettingsEntries} (h : entries.ReadFrom layer)
    (s : Settings) :
    Settings.lenient? (.map (Value.entriesOver layer s.toValue.entries)) = some (s.overlaid entries) := by
  let base := s.toValue.entries
  have hi := h.hostId.named?_of_written base rfl (by simp [Value.laidOver])
  have hl := h.leaseSeconds.named?_of_written base rfl (by simp [Value.laidOver])
  have hr := h.registrationSeconds.named?_of_written base rfl (by simp [Value.laidOver])
  have hd := h.journalsDirectory.named?_of_written base rfl (by simp [Value.laidOver])
  have ⟨v, hv, he⟩ := exists_lenient?_endpoint h.publicEndpoint base rfl
  have ⟨w, hw, hf⟩ := exists_lenient?_endpoint h.privateEndpoint base rfl
  simp [base, lenient?, Value.slots?, fields, ofSlots?, orDefault, overlaid, hi, hl, hr, hd, hv, he, hw, hf]

theorem Settings.ofLayer?_eq_some {entries : SettingsEntries} (h : entries.ReadFrom layer)
    (hp : ∀ entry ∈ layer, ∃ name, entry.1 = .text name ∧ IsPlainName name) :
    ofLayer? layer = some (default.overlaid entries) := by
  rw [ofLayer?, ←lenient?_laidOver h]
  exact congrArg _ (Value.layerOver_plain hp)

theorem Endpoint.get_overlaid (e : Endpoint) (entries : Option EndpointEntries) (part : EndpointSetting) :
    ((entries.map e.overlaid).getD e).get part = (entries.bind (·.get? part)).getD (e.get part) := by
  cases entries
  case none => rfl
  case some => cases part <;> rfl

theorem Settings.get_overlaid (s : Settings) (entries : SettingsEntries) (k : Setting) :
    (s.overlaid entries).get k = (entries.get? k).getD (s.get k) := by
  cases k
  case publicEndpoint | privateEndpoint => exact Endpoint.get_overlaid ..
  all_goals rfl

theorem Settings.get_overlaid_apply (entries : SettingsEntries) (o : ConfigOptions) (k : Setting) :
    ((default.overlaid entries).apply o.overrides).get k = k.layered entries o := by
  rw [get_apply, ConfigOptions.get?_overrides, get_overlaid, Setting.layered]
  cases o.get? k <;> cases entries.get? k <;> rfl

namespace Settings

variable {files : Files} {path : String} {entries : SettingsEntries} {o : ConfigOptions}
  {s : Settings}

theorem load_eq_ok_of_layer (hl : layerOfFile files path = .ok layer) (hs : ofLayer? layer = some s) :
    load files path = .ok s := by
  rw [load, bind_eq_ok_iff]
  exact ⟨layer, hl, by rw [hs]; rfl⟩

theorem load_eq_ok_of_foundAt (h : entries.FoundAt files path) :
    load files path = .ok (default.overlaid entries) := by
  cases h
  case missing h =>
    exact load_eq_ok_of_layer (by simp [layerOfFile, h]; rfl) rfl
  case file hc hf hl hp hr =>
    exact load_eq_ok_of_layer (by simp [layerOfFile, hc, hf, hl]) (ofLayer?_eq_some hr hp)

theorem effective_eq_ok_iff : effective files path o = .ok s ↔
    ∃ loaded, load files path = .ok loaded ∧ s = loaded.apply o.overrides ∧ s.Valid := by
  simp only [effective, bind_eq_ok_iff, ←fault?_eq_none_iff]
  constructor
  case mp =>
    intro ⟨loaded, hl, h⟩
    cases hf : (loaded.apply o.overrides).fault? <;> simp only [hf] at h
    case none =>
      have hs := pure_eq_ok_iff.mp h
      exact ⟨loaded, hl, hs, hs ▸ hf⟩
    case some => contradiction
  case mpr =>
    intro ⟨loaded, hl, hs, hf⟩
    subst hs
    exact ⟨loaded, hl, by rw [hf]; rfl⟩

-- What is in effect for a file and some options, and when anything is. Each of the settings is looked up by
-- itself, and only what results from this has to be valid.
theorem effective_layered_and_valid (h : entries.FoundAt files path) (o : ConfigOptions) :
    (∃ loaded, load files path = .ok loaded ∧
      ∀ k, (loaded.apply o.overrides).get k = k.layered entries o) ∧
    (∀ s, effective files path o = .ok s ↔ (∀ k, s.get k = k.layered entries o) ∧ s.Valid) := by
  have hl := load_eq_ok_of_foundAt h
  have ha := get_overlaid_apply entries o
  refine ⟨⟨_, hl, ha⟩, fun s => ?_⟩
  have hs : s = (default.overlaid entries).apply o.overrides ↔ ∀ k, s.get k = k.layered entries o := by
    constructor
    case mp  => exact fun hs k => hs ▸ ha k
    case mpr => exact fun hs => ext_get fun k => (hs k).trans (ha k).symm
  simp [effective_eq_ok_iff, hl, hs]

-- The file turns the encryption of the public endpoint on, and the options say with which files. The private
-- endpoint only gets a key.
theorem effective_layered_and_valid_shared_endpoint :
    let text := "\x7b\n  \"public_api_rpc\": \x7b\n    \"tls_enabled\": true\n  \x7d\n\x7d"
    let o := { ConfigOptions.none with
      publicKeyFile := some "k", publicCertificateFile := some "c", privateKeyFile := some "p" }
    effective (fun _ => .file text.toUTF8) "s.json" o = .ok { default with
      publicEndpoint := ⟨"127.0.0.1:9966", true, false, none, some "k", some "c"⟩
      privateEndpoint := ⟨"127.0.0.1:9967", false, false, none, some "p", none⟩ } := by
  intro text o
  let inner := [(Value.text "tls_enabled", Value.bool true)]
  let entries := [(Value.text "public_api_rpc", Value.map inner)]
  have ht : text.toList = Json.pretty 0 (.map entries) ++ [] := by decide +kernel
  have hv : (Value.map entries).Sayable Json.maxDepth := by
    refine .map (by simp [entries]) (List.forall_mem_singleton.mpr ?_)
    exact .map (by simp [inner]) (List.forall_mem_singleton.mpr .bool)
  have hp : ∀ entry ∈ entries, ∃ name, entry.1 = .text name ∧ IsPlainName name :=
    List.forall_mem_singleton.mpr ⟨_, rfl, by decide⟩
  have hi : EndpointEntries.ReadFrom inner ⟨none, some true, none, none, none, none⟩ :=
    ⟨.nothing rfl, .just rfl rfl, .nothing rfl, .nothing rfl, .nothing rfl, .nothing rfl⟩
  have hr : SettingsEntries.ReadFrom entries ⟨none, none, none, none, some _, none⟩ :=
    ⟨.nothing rfl, .nothing rfl, .nothing rfl, .nothing rfl, .just rfl ⟨_, rfl, hi⟩, .nothing rfl⟩
  have hf : SettingsEntries.FoundAt (fun _ => .file text.toUTF8) "s.json" _ :=
    .of_pretty rfl rfl ht (List.forall_mem_nil _) hv hp hr
  refine (effective_layered_and_valid hf o).right _ |>.mpr ⟨fun k => ?_, fault?_eq_none_iff.mp rfl⟩
  cases k
  case publicEndpoint part | privateEndpoint part => cases part <;> rfl
  all_goals rfl

end Settings

end JournalSelect
