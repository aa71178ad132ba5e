import JournalSelect.Settings.Basic

namespace JournalSelect

-- A new value for some of the settings.
structure EndpointOverrides where
  address : Option String
  tls : Option Bool
  twoWay : Option Bool
  authorityFile : Option String
  keyFile : Option String
  certificateFile : Option String
deriving DecidableEq, Repr

structure Overrides where
  hostId : Option UInt16
  leaseSeconds : Option UInt32
  registrationSeconds : Option UInt32
  journalsDirectory : Option String
  publicEndpoint : EndpointOverrides
  privateEndpoint : EndpointOverrides
deriving DecidableEq, Repr

namespace EndpointOverrides

def none : EndpointOverrides where
  address := .none
  tls := .none
  twoWay := .none
  authorityFile := .none
  keyFile := .none
  certificateFile := .none

end EndpointOverrides

namespace Overrides

def none : Overrides where
  hostId := .none
  leaseSeconds := .none
  registrationSeconds := .none
  journalsDirectory := .none
  publicEndpoint := .none
  privateEndpoint := .none

end Overrides

-- No override takes a file away.
def Endpoint.apply (e : Endpoint) (o : EndpointOverrides) : Endpoint where
  address := o.address.getD e.address
  tls := o.tls.getD e.tls
  twoWay := o.twoWay.getD e.twoWay
  authorityFile := o.authorityFile.or e.authorityFile
  keyFile := o.keyFile.or e.keyFile
  certificateFile := o.certificateFile.or e.certificateFile

def Settings.apply (s : Settings) (o : Overrides) : Settings where
  hostId := o.hostId.getD s.hostId
  leaseSeconds := o.leaseSeconds.getD s.leaseSeconds
  registrationSeconds := o.registrationSeconds.getD s.registrationSeconds
  journalsDirectory := o.journalsDirectory.getD s.journalsDirectory
  publicEndpoint := s.publicEndpoint.apply o.publicEndpoint
  privateEndpoint := s.privateEndpoint.apply o.privateEndpoint

end JournalSelect
