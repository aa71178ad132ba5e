import JournalSelect.CommandLine.Invocation
import JournalSelect.Proofs.CommandLine.Choices
import JournalSelect.Proofs.Text.Numeral
import Mathlib.Data.List.Perm.Basic

namespace JournalSelect

open CommandLine

-- The name of the option for a setting.
def Setting.long : Setting → String
  | hostId                           => "host-id"
  | leaseSeconds                     => "host-lease-ttl"
  | registrationSeconds              => "host-registration-timeout"
  | journalsDirectory                => "journals-dir"
  | publicEndpoint .address          => "pb-api-rpc-listen-on"
  | publicEndpoint .tls              => "pb-api-rpc-tls-enabled"
  | publicEndpoint .twoWay           => "pb-api-rpc-tls-2w"
  | publicEndpoint .authorityFile    => "pb-api-rpc-tls-ca"
  | publicEndpoint .keyFile          => "pb-api-rpc-tls-key"
  | publicEndpoint .certificateFile  => "pb-api-rpc-tls-cert"
  | privateEndpoint .address         => "prvt-api-rpc-listen-on"
  | privateEndpoint .tls             => "prvt-api-rpc-tls-enabled"
  | privateEndpoint .twoWay          => "prvt-api-rpc-tls-2w"
  | privateEndpoint .authorityFile   => "prvt-api-rpc-tls-ca"
  | privateEndpoint .keyFile         => "prvt-api-rpc-tls-key"
  | privateEndpoint .certificateFile => "prvt-api-rpc-tls-cert"

-- Texts and paths are written as they are.
def EndpointSetting.spell : (part : EndpointSetting) → part.Given → String
  | address, s | authorityFile, s | keyFile, s | certificateFile, s => s
  | tls, b | twoWay, b                                              => if b then "true" else "false"

-- Numbers are written in decimal.
def Setting.spell : (k : Setting) → k.Given → String
  | hostId, n                                        => .ofList (Text.decimalDigits n.toNat)
  | leaseSeconds, n | registrationSeconds, n         => .ofList (Text.decimalDigits n.toNat)
  | journalsDirectory, path                          => path
  | publicEndpoint part, v | privateEndpoint part, v => part.spell v

namespace Choice

def spelling (c : Choice) : String :=
  c.setting.spell c.value

def argument (c : Choice) : String :=
  "--" ++ c.setting.long ++ "=" ++ c.spelling

end Choice

-- One argument for each value that is given.
def CommandLine.ConfigOptions.arguments (o : ConfigOptions) : List String :=
  o.choices.map Choice.argument

def EndpointSetting.parse : (part : EndpointSetting) → String → Except Halt part.Given
  | address                                   => text?
  | tls | twoWay                              => bool?
  | authorityFile | keyFile | certificateFile => path?

def Setting.parse : (k : Setting) → String → Except Halt k.Given
  | hostId                                     => CommandLine.word16?
  | leaseSeconds | registrationSeconds         => CommandLine.word32?
  | journalsDirectory                          => path?
  | publicEndpoint part | privateEndpoint part => part.parse

def Setting.option (k : Setting) : ValueOption (CommandLine.Given ConfigOptions) :=
  ownOption k.long k.parse (·.get? k) fun o v => o.give ⟨k, v⟩

theorem longOption?_long (k : Setting) : configLevel.longOption? k.long = some k.option := by
  cases k
  case publicEndpoint part | privateEndpoint part => cases part <;> rfl
  all_goals rfl

theorem word16?_decimalDigits (n : UInt16) :
    CommandLine.word16? (.ofList (Text.decimalDigits n.toNat)) = .ok n := by
  simp [CommandLine.word16?, Text.signed?_decimalDigits, word16?, n.toNat_lt, orMalformed]

theorem word32?_decimalDigits (n : UInt32) :
    CommandLine.word32? (.ofList (Text.decimalDigits n.toNat)) = .ok n := by
  simp [CommandLine.word32?, Text.signed?_decimalDigits, word32?, n.toNat_lt, orMalformed]

theorem path?_of_ne {path : String} (h : path ≠ "") : path? path = .ok path := by
  simp [path?, h]

theorem EndpointSetting.parse_spell {part : EndpointSetting} {v : part.Given} (h : part.spell v ≠ "") :
    part.parse (part.spell v) = .ok v := by
  cases part
  case address                                   => rfl
  case tls | twoWay                              => cases v <;> rfl
  case authorityFile | keyFile | certificateFile => exact path?_of_ne h

theorem Setting.parse_spell {k : Setting} {v : k.Given} (h : k.spell v ≠ "") :
    k.parse (k.spell v) = .ok v := by
  cases k
  case hostId                             => exact word16?_decimalDigits v
  case leaseSeconds | registrationSeconds => exact word32?_decimalDigits v
  case journalsDirectory                  => exact path?_of_ne h
  case publicEndpoint | privateEndpoint   => exact EndpointSetting.parse_spell h

theorem shapeOf_attached {name value : String} (h : '=' ∉ name.toList) :
    shapeOf ("--" ++ name ++ "=" ++ value) = .long name (some value) := by
  have hn : ∀ c ∈ name.toList, (c != '=') = true := by
    intro c hc
    exact bne_iff_ne.mpr fun he => h (he ▸ hc)
  simp [shapeOf, List.takeWhile_append_of_pos hn, List.dropWhile_append_of_pos hn]

theorem Setting.equals_not_mem_long (k : Setting) : '=' ∉ k.long.toList := by
  cases k
  case publicEndpoint part | privateEndpoint part => cases part <;> decide
  all_goals decide

namespace Choice

variable {c : Choice} {cs : List Choice} {g : CommandLine.Given ConfigOptions} {args : List String}

theorem store_spelling (hs : c.spelling ≠ "") (hg : g.command.get? c.setting = none) :
    c.setting.option.store c.spelling g = .ok { g with command := g.command.give c } := by
  simp [Setting.option, ownOption, storeWith, hg, spelling, Setting.parse_spell hs, Except.map]

theorem read_argument (hs : c.spelling ≠ "") (hg : g.command.get? c.setting = none) :
    configLevel.read (c.argument :: args) (.start g) =
    configLevel.read args (.start { g with command := g.command.give c }) := by
  have hr : configLevel.readLong c.setting.long (some c.spelling) (.start g) =
      .ok (.start { g with command := g.command.give c }) := by
    simp only [Level.readLong, longOption?_long, Reading.attach, Reading.settle, Reading.start]
    simp [bind, Except.bind, store_spelling hs hg, pure, Except.pure]
  rw [Level.read, argument, shapeOf_attached (Setting.equals_not_mem_long _)]
  simp only [hr]
  rfl

-- Reading takes the arguments one by one, and none of them gives a setting that has a value by then.
theorem read_arguments (hs : ∀ c ∈ cs, c.spelling ≠ "") (hn : (cs.map setting).Nodup)
    (hg : ∀ c ∈ cs, g.command.get? c.setting = none) :
    configLevel.read (cs.map argument) (.start g) =
    .ok (.start { g with command := g.command.giveAll cs }, false, []) := by
  induction cs generalizing g
  case nil => rfl
  case cons c cs hi =>
    have ⟨hs, hss⟩ := List.forall_mem_cons.mp hs
    have ⟨hc, hcs⟩ := List.forall_mem_cons.mp hg
    have ⟨hm, hn⟩ := List.nodup_cons.mp hn
    have hg : ∀ d ∈ cs, (g.command.give c).get? d.setting = none := by
      intro d hd
      have hne : d.setting ≠ c.setting := fun he => hm (he ▸ List.mem_map_of_mem hd)
      rw [ConfigOptions.get?_give_of_ne hne, hcs d hd]
    rw [List.map_cons, read_argument hs hc, hi hss hn hg]
    rfl

end Choice

namespace CommandLine

variable {o : ConfigOptions} {args : List String}

theorem ConfigOptions.read_arguments (hs : ∀ c ∈ o.choices, c.spelling ≠ "") (hp : args.Perm o.arguments) :
    configLevel.read args (.start (.nothing .none)) = .ok (.start (.nothing o), false, []) := by
  have ⟨cs, ha, hp⟩ := (congrFun₂ (List.eq_map_comp_perm Choice.argument) args o.choices).mpr hp
  have hs : ∀ c ∈ cs, c.spelling ≠ "" := fun c hc => hs c (hp.mem_iff.mp hc)
  have hn := (hp.map Choice.setting).nodup_iff.mpr nodup_choices
  rw [ha, Choice.read_arguments hs hn fun _ _ => get?_none]
  simp only [Given.nothing, giveAll_choices hp]

theorem settleLevel_nothing {environment : Option String} (h : environment ≠ some "") (command : α) :
    settleLevel environment (.start (.nothing command)) = .ok {
      given := .nothing command
      configFile := environment.getD defaultConfigFile
      source := if environment.isSome then .environment else .default } := by
  cases environment
  case none      => rfl
  case some path =>
    have hp : path ≠ "" := fun he => h (he ▸ rfl)
    simp [settleLevel, Reading.settle, Reading.start, Given.nothing, path?_of_ne hp, bind, Except.bind,
      pure, Except.pure]

theorem Invocation.read_config {g : Given ConfigOptions}
    (h : configLevel.read args (.start (.nothing .none)) = .ok (.start g, false, []))
    (environment : Option String) :
    Invocation.read environment ("config" :: args) = (do
      let sub ← settleLevel environment (.start g)
      let top ← settleLevel environment (.start (.nothing ()))
      return invocation top sub (.config sub.given.command)) := by
  have ht : topLevel.read ("config" :: args) (.start (.nothing ())) =
      .ok (.start (.nothing ()), false, "config" :: args) := rfl
  rw [Invocation.read, ht]
  simp [bind, Except.bind, readCommand, h]

-- What is read from the arguments for some options. Their order does not matter, and neither does the
-- environment, as long as it names a file for the settings or none.
theorem Invocation.read_config_arguments (hs : ∀ c ∈ o.choices, c.spelling ≠ "")
    (hp : args.Perm o.arguments) :
    configLevel.read args (.start (.nothing .none)) = .ok (.start (.nothing o), false, []) ∧
    (∀ environment ≠ some "", Invocation.read environment ("config" :: args) =
      .ok ⟨environment.getD defaultConfigFile, none, false, .config o⟩) ∧
    (∀ others, others.Perm args → ∀ environment,
      Invocation.read environment ("config" :: others) = Invocation.read environment ("config" :: args)) := by
  have hr := ConfigOptions.read_arguments hs hp
  refine ⟨hr, ?_, ?_⟩
  · intro environment he
    rw [read_config hr, settleLevel_nothing he, settleLevel_nothing he]
    cases environment <;> rfl
  · intro others ho environment
    rw [read_config hr, read_config (ConfigOptions.read_arguments hs (ho.trans hp))]

-- Values that look like an option themselves.
theorem Invocation.read_config_arguments_dashes_and_equals :
    let o := { ConfigOptions.none with
      hostId := some 0, journalsDirectory := some "-j=a", publicTwoWay := some false,
      privateKeyFile := some "--k" }
    let args := [
      "--prvt-api-rpc-tls-key=--k", "--pb-api-rpc-tls-2w=false", "--journals-dir=-j=a", "--host-id=0"]
    (∀ c ∈ o.choices, c.spelling ≠ "") ∧ args.Perm o.arguments ∧
    Invocation.read none ("config" :: args) =
      .ok ⟨defaultConfigFile, none, false, .config o⟩ := by
  intro o args
  have hs : ∀ c ∈ o.choices, c.spelling ≠ "" := by decide
  have hp : args.Perm o.arguments := by decide
  exact ⟨hs, hp, (read_config_arguments hs hp).right.left none nofun⟩

end CommandLine

end JournalSelect
