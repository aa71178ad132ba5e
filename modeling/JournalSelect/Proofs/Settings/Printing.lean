import JournalSelect.Proofs.Json.Reading
import JournalSelect.Proofs.Program
import JournalSelect.Proofs.Settings.Effective

namespace JournalSelect

namespace Value

theorem sayable_word {levels n : Nat} (h : n < UInt64.size) : Sayable levels (.int n) := by
  have hl : Int64.minValue.toInt ≤ 0 := by decide
  exact .int (by omega) (Int.ofNat_lt.mpr h)

theorem sayable_optionalText {levels : Nat} (o : Option String) : Sayable levels (.optionalText o) := by
  cases o
  case none => exact .null
  case some => exact .text

theorem ordered_optionalText (o : Option String) : (optionalText o).ordered = optionalText o := by
  cases o <;> rfl

end Value

-- What a file says that leaves nothing about an endpoint out.
def EndpointEntries.ofEndpoint (e : Endpoint) : EndpointEntries where
  address := some e.address
  tls := some e.tls
  twoWay := some e.twoWay
  authorityFile := some e.authorityFile
  keyFile := some e.keyFile
  certificateFile := some e.certificateFile

def SettingsEntries.ofSettings (s : Settings) : SettingsEntries where
  hostId := some s.hostId
  leaseSeconds := some s.leaseSeconds
  registrationSeconds := some s.registrationSeconds
  journalsDirectory := some s.journalsDirectory
  publicEndpoint := some (.ofEndpoint s.publicEndpoint)
  privateEndpoint := some (.ofEndpoint s.privateEndpoint)

namespace Endpoint

variable {levels : Nat} (e : Endpoint)

theorem sayable_toValue : e.toValue.Sayable (levels + 1) := by
  refine .map ?_ ?_
  · simp
  · simp [Value.Sayable.bool, Value.Sayable.text, Value.sayable_optionalText]

-- The fields as they are read back, in the order of their names and not in that of the record.
def orderedEntries : List (Value × Value) := [
  (.text "listen_addr", .text e.address),
  (.text "tls_2way", .bool e.twoWay),
  (.text "tls_ca_file", .optionalText e.authorityFile),
  (.text "tls_cert_file", .optionalText e.certificateFile),
  (.text "tls_enabled", .bool e.tls),
  (.text "tls_key_file", .optionalText e.keyFile)]

theorem ordered_toValue : e.toValue.ordered = .map e.orderedEntries := by
  simp only [toValue, Value.ordered, Value.orderedEntries, Value.insertEntry, Value.ordered_optionalText,
    orderedEntries, String.reduceLT, String.reduceEq, if_true, if_false]

theorem readFrom_orderedEntries : (EndpointEntries.ofEndpoint e).ReadFrom e.orderedEntries :=
  ⟨.just rfl rfl, .just rfl rfl, .just rfl rfl, .just rfl rfl, .just rfl rfl, .just rfl rfl⟩

end Endpoint

namespace Settings

variable {levels : Nat} (s : Settings)

theorem sayable_toValue : s.toValue.Sayable (levels + 2) := by
  have hi : s.hostId.toNat < UInt64.size := s.hostId.toNat_lt.trans (by decide)
  have hl : s.leaseSeconds.toNat < UInt64.size := s.leaseSeconds.toNat_lt.trans (by decide)
  have hr : s.registrationSeconds.toNat < UInt64.size :=
    s.registrationSeconds.toNat_lt.trans (by decide)
  refine .map ?_ ?_
  · simp
  · simp only [List.forall_mem_cons]
    exact ⟨Value.sayable_word hi, Value.sayable_word hl, Value.sayable_word hr, .text,
      s.publicEndpoint.sayable_toValue, s.privateEndpoint.sayable_toValue, List.forall_mem_nil _⟩

def orderedEntries : List (Value × Value) := [
  (.text "host_id", .int s.hostId.toNat),
  (.text "host_lease_ttl_sec", .int s.leaseSeconds.toNat),
  (.text "host_register_timeout_sec", .int s.registrationSeconds.toNat),
  (.text "journals_dir", .text s.journalsDirectory),
  (.text "private_api_rpc", .map s.privateEndpoint.orderedEntries),
  (.text "public_api_rpc", .map s.publicEndpoint.orderedEntries)]

theorem ordered_toValue : s.toValue.ordered = .map s.orderedEntries := by
  simp only [toValue, Value.ordered, Value.orderedEntries, Value.insertEntry, Endpoint.ordered_toValue,
    orderedEntries, String.reduceLT, String.reduceEq, if_true, if_false]

theorem readFrom_orderedEntries : (SettingsEntries.ofSettings s).ReadFrom s.orderedEntries :=
  have hp := s.publicEndpoint.readFrom_orderedEntries
  have hq := s.privateEndpoint.readFrom_orderedEntries
  ⟨.just rfl rfl, .just rfl rfl, .just rfl rfl, .just rfl rfl, .just rfl ⟨_, rfl, hp⟩, .just rfl ⟨_, rfl, hq⟩⟩

theorem isPlainName_orderedEntries :
    ∀ entry ∈ s.orderedEntries, ∃ name, entry.1 = .text name ∧ IsPlainName name := by
  simp only [orderedEntries, List.forall_mem_cons]
  exact ⟨⟨_, rfl, by decide⟩, ⟨_, rfl, by decide⟩, ⟨_, rfl, by decide⟩, ⟨_, rfl, by decide⟩,
    ⟨_, rfl, by decide⟩, ⟨_, rfl, by decide⟩, List.forall_mem_nil _⟩

theorem toList_print : (s.print ++ "\n").toList = Json.pretty 0 s.toValue ++ ['\n'] := by
  rw [String.toList_append, print, String.toList_ofList]
  rfl

variable {s} {files : Files} {path : String}

theorem foundAt_of_printed (hf : files path = .file (s.print ++ "\n").toUTF8)
    (hx : Files.extension? path = some "json") : (SettingsEntries.ofSettings s).FoundAt files path := by
  have ho := Value.map.inj s.ordered_toValue
  have hb : ∀ c ∈ ['\n'], Json.isBlank c = true := List.all_eq_true.mp rfl
  refine .of_pretty hf hx s.toList_print hb s.sayable_toValue ?_ ?_
  · exact ho ▸ s.isPlainName_orderedEntries
  · exact ho ▸ s.readFrom_orderedEntries

theorem effective_of_printed (hf : files path = .file (s.print ++ "\n").toUTF8)
    (hx : Files.extension? path = some "json") (hv : s.Valid) : effective files path .none = .ok s := by
  have hl := load_eq_ok_of_foundAt (foundAt_of_printed hf hx)
  exact effective_eq_ok_iff.mpr ⟨_, hl, rfl, hv⟩

end Settings

namespace CommandLine.Command

-- What the command for the settings writes is a file for which it writes the same.
theorem outcome_config_reproduced {files kept : Files} {configFile path text : String}
    {options : ConfigOptions} (hr : ((config options).run files configFile).outcome "" = (.ok (), text))
    (hk : kept path = .file text.toUTF8) (hx : Files.extension? path = some "json") :
    ((config .none).run kept path).outcome "" = (.ok (), text) ∧
    ∃ s, Settings.effective files configFile options = .ok s ∧
      Settings.effective kept path .none = .ok s := by
  rw [outcome_config] at hr ⊢
  cases he : Settings.effective files configFile options
  case error => simp [he] at hr
  case ok s =>
    have ht : s.print ++ "\n" = text := by simpa [he] using hr
    have ⟨_, _, _, hv⟩ := Settings.effective_eq_ok_iff.mp he
    have hs := Settings.effective_of_printed (ht ▸ hk) hx hv
    exact ⟨by simp [hs, ht], s, rfl, hs⟩

-- A folder whose name has everything in it that a text needs escapes for, and more.
theorem outcome_config_reproduced_escaped_name :
    let s := { Settings.default with journalsDirectory := "\"\\\n\x01/é😀" }
    let text := s.print ++ "\n"
    let given := { ConfigOptions.none with journalsDirectory := some s.journalsDirectory }
    ((config given).run (fun _ => .missing) "s.yaml").outcome "" = (.ok (), text) ∧
    ((config .none).run (fun _ => .file text.toUTF8) "s.json").outcome "" = (.ok (), text) := by
  intro s text given
  have hs : Settings.effective (fun _ => .missing) "s.yaml" given = .ok s := rfl
  have hr : ((config given).run (fun _ => .missing) "s.yaml").outcome "" = (.ok (), text) := by
    rw [outcome_config, hs]
    simp [text]
  exact ⟨hr, (outcome_config_reproduced hr rfl rfl).left⟩

end CommandLine.Command

end JournalSelect
