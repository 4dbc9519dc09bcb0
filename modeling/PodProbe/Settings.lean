import PodProbe.Bytes
import PodProbe.Endpoint

/-!
This module contains what a run is told beforehand.
-/

namespace PodProbe

structure ClientIdentity where
  certificates : List Bytes
  key : Bytes
deriving DecidableEq, Repr

structure Settings where
  name : String
  domain : String := ".symphony.com"
  connectTimeout : Nat := 2000
  readTimeout : Option Nat := none
  identity : Option ClientIdentity := none
  /-- Whether names are looked up before they are connected to, so that unknown hosts are reported as such. -/
  resolveHosts : Bool := true
deriving DecidableEq, Repr

namespace Settings

def hostname (s : Settings) : String :=
  s.name ++ s.domain

def hasClientCertificate (s : Settings) : Bool :=
  s.identity.isSome

def endpoint (s : Settings) (port : UInt16) : Endpoint where
  name := s.name
  suffix := ""
  domain := s.domain
  port := port
  basePath := ""

end Settings

end PodProbe
