import JournalSelect.CommandLine.Options

namespace JournalSelect

open CommandLine

inductive EndpointSetting where
  | address
  | tls
  | twoWay
  | authorityFile
  | keyFile
  | certificateFile
deriving DecidableEq

-- Four settings of the host and six of each endpoint.
inductive Setting where
  | hostId
  | leaseSeconds
  | registrationSeconds
  | journalsDirectory
  | publicEndpoint (part : EndpointSetting)
  | privateEndpoint (part : EndpointSetting)
deriving DecidableEq

namespace EndpointSetting

-- What can be given for a setting, which is always a value.
abbrev Given : EndpointSetting → Type
  | tls | twoWay                                          => Bool
  | address | authorityFile | keyFile | certificateFile => String

-- An endpoint may be without a file.
abbrev Held : EndpointSetting → Type
  | address                                   => String
  | tls | twoWay                              => Bool
  | authorityFile | keyFile | certificateFile => Option String

def holding : (part : EndpointSetting) → part.Given → part.Held
  | address, s | tls, s | twoWay, s                            => s
  | authorityFile, path | keyFile, path | certificateFile, path => some path

end EndpointSetting

namespace Setting

abbrev Given : Setting → Type
  | hostId                                    => UInt16
  | leaseSeconds | registrationSeconds        => UInt32
  | journalsDirectory                         => String
  | publicEndpoint part | privateEndpoint part => part.Given

abbrev Held : Setting → Type
  | hostId                                    => UInt16
  | leaseSeconds | registrationSeconds        => UInt32
  | journalsDirectory                         => String
  | publicEndpoint part | privateEndpoint part => part.Held

-- What a setting holds once a value is given for it.
def holding : (k : Setting) → k.Given → k.Held
  | hostId, n                                              => n
  | leaseSeconds, n | registrationSeconds, n               => n
  | journalsDirectory, path                                => path
  | publicEndpoint part, value | privateEndpoint part, value => part.holding value

end Setting

def Endpoint.get (e : Endpoint) : (part : EndpointSetting) → part.Held
  | .address         => e.address
  | .tls             => e.tls
  | .twoWay          => e.twoWay
  | .authorityFile   => e.authorityFile
  | .keyFile         => e.keyFile
  | .certificateFile => e.certificateFile

def Settings.get (s : Settings) : (k : Setting) → k.Held
  | .hostId               => s.hostId
  | .leaseSeconds         => s.leaseSeconds
  | .registrationSeconds  => s.registrationSeconds
  | .journalsDirectory    => s.journalsDirectory
  | .publicEndpoint part  => s.publicEndpoint.get part
  | .privateEndpoint part => s.privateEndpoint.get part

def EndpointOverrides.get? (o : EndpointOverrides) : (part : EndpointSetting) → Option part.Given
  | .address         => o.address
  | .tls             => o.tls
  | .twoWay          => o.twoWay
  | .authorityFile   => o.authorityFile
  | .keyFile         => o.keyFile
  | .certificateFile => o.certificateFile

def Overrides.get? (o : Overrides) : (k : Setting) → Option k.Given
  | .hostId               => o.hostId
  | .leaseSeconds         => o.leaseSeconds
  | .registrationSeconds  => o.registrationSeconds
  | .journalsDirectory    => o.journalsDirectory
  | .publicEndpoint part  => o.publicEndpoint.get? part
  | .privateEndpoint part => o.privateEndpoint.get? part

def CommandLine.ConfigOptions.get? (o : ConfigOptions) : (k : Setting) → Option k.Given
  | .hostId                           => o.hostId
  | .leaseSeconds                     => o.leaseSeconds
  | .registrationSeconds              => o.registrationSeconds
  | .journalsDirectory                => o.journalsDirectory
  | .publicEndpoint .address          => o.publicAddress
  | .publicEndpoint .tls              => o.publicTls
  | .publicEndpoint .twoWay           => o.publicTwoWay
  | .publicEndpoint .authorityFile    => o.publicAuthorityFile
  | .publicEndpoint .keyFile          => o.publicKeyFile
  | .publicEndpoint .certificateFile  => o.publicCertificateFile
  | .privateEndpoint .address         => o.privateAddress
  | .privateEndpoint .tls             => o.privateTls
  | .privateEndpoint .twoWay          => o.privateTwoWay
  | .privateEndpoint .authorityFile   => o.privateAuthorityFile
  | .privateEndpoint .keyFile         => o.privateKeyFile
  | .privateEndpoint .certificateFile => o.privateCertificateFile

-- The options that give what a function has for each setting.
def CommandLine.ConfigOptions.tabulate (given : (k : Setting) → Option k.Given) : ConfigOptions where
  hostId := given .hostId
  leaseSeconds := given .leaseSeconds
  registrationSeconds := given .registrationSeconds
  journalsDirectory := given .journalsDirectory
  publicAddress := given (.publicEndpoint .address)
  publicTls := given (.publicEndpoint .tls)
  publicTwoWay := given (.publicEndpoint .twoWay)
  publicAuthorityFile := given (.publicEndpoint .authorityFile)
  publicKeyFile := given (.publicEndpoint .keyFile)
  publicCertificateFile := given (.publicEndpoint .certificateFile)
  privateAddress := given (.privateEndpoint .address)
  privateTls := given (.privateEndpoint .tls)
  privateTwoWay := given (.privateEndpoint .twoWay)
  privateAuthorityFile := given (.privateEndpoint .authorityFile)
  privateKeyFile := given (.privateEndpoint .keyFile)
  privateCertificateFile := given (.privateEndpoint .certificateFile)

-- There is nothing else in the settings of an endpoint, or of a server.
theorem Endpoint.ext_get {d e : Endpoint} (h : ∀ part, d.get part = e.get part) : d = e := by
  cases d
  cases e
  simp only [mk.injEq]
  exact ⟨h .address, h .tls, h .twoWay, h .authorityFile, h .keyFile, h .certificateFile⟩

theorem Settings.ext_get {s t : Settings} (h : ∀ k, s.get k = t.get k) : s = t := by
  have hp := Endpoint.ext_get fun part => h (.publicEndpoint part)
  have hq := Endpoint.ext_get fun part => h (.privateEndpoint part)
  cases s
  cases t
  simp only [mk.injEq]
  exact ⟨h .hostId, h .leaseSeconds, h .registrationSeconds, h .journalsDirectory, hp, hq⟩

namespace CommandLine.ConfigOptions

variable {o p : ConfigOptions} {k : Setting}

theorem get?_tabulate (given : (k : Setting) → Option k.Given) : (tabulate given).get? k = given k := by
  cases k
  case publicEndpoint part | privateEndpoint part => cases part <;> rfl
  all_goals rfl

theorem ext_get? (h : ∀ k, o.get? k = p.get? k) : o = p :=
  congrArg tabulate (funext h)

theorem get?_none : none.get? k = .none :=
  get?_tabulate fun _ => .none

end CommandLine.ConfigOptions

-- An option overrides the setting that it is named for.
theorem CommandLine.ConfigOptions.get?_overrides (o : ConfigOptions) (k : Setting) :
    o.overrides.get? k = o.get? k := by
  cases k
  case publicEndpoint part | privateEndpoint part => cases part <;> rfl
  all_goals rfl

theorem getD_map_some {o default : Option α} : (o.map some).getD default = o.or default := by
  cases o <;> rfl

theorem Endpoint.get_apply (e : Endpoint) (o : EndpointOverrides) (part : EndpointSetting) :
    (e.apply o).get part = ((o.get? part).map part.holding).getD (e.get part) := by
  cases part
  case address | tls | twoWay                    => exact congrArg (Option.getD · _) Option.map_id'.symm
  case authorityFile | keyFile | certificateFile => exact getD_map_some.symm

theorem Settings.get_apply (s : Settings) (o : Overrides) (k : Setting) :
    (s.apply o).get k = ((o.get? k).map k.holding).getD (s.get k) := by
  cases k
  case publicEndpoint | privateEndpoint => exact Endpoint.get_apply ..
  all_goals exact congrArg (Option.getD · _) Option.map_id'.symm

end JournalSelect
