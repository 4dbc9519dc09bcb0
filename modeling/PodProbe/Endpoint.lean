/-!
This module contains the endpoints that a pod may be served at, and the URLs that belong to them.
-/

namespace PodProbe

inductive Scheme where
  | https
  | http
deriving DecidableEq, Repr

namespace Scheme

def text : Scheme → String
  | https => "https"
  | http => "http"

/-- The port that a URL of this scheme does not name. -/
def defaultPort : Scheme → UInt16
  | https => 443
  | http => 80

end Scheme

structure Endpoint where
  name : String
  suffix : String
  domain : String
  port : UInt16
  basePath : String
  scheme : Scheme := .https
deriving DecidableEq, Repr

namespace Endpoint

def plaintext (e : Endpoint) : Endpoint :=
  { e with scheme := .http }

def host (e : Endpoint) : String :=
  e.name ++ e.suffix ++ e.domain

/-- The port as a URL names it, which is not at all if it is the default of the scheme. -/
def portText (e : Endpoint) : String :=
  if e.port = e.scheme.defaultPort then "" else ":" ++ toString e.port.toNat

def baseUrl (e : Endpoint) : String :=
  e.scheme.text ++ "://" ++ e.host ++ e.portText ++ e.basePath

/-- All pairs of a suffix and a port, where the port changes faster. -/
def candidates (name domain : String) (suffixes : List String) (ports : List UInt16) (basePath : String) :
    List Endpoint :=
  suffixes.flatMap fun suffix => ports.map fun port => { name, suffix, domain, port, basePath }

theorem mem_candidates {name domain : String} {suffixes : List String} {ports : List UInt16} {basePath : String}
    {e : Endpoint} :
    e ∈ candidates name domain suffixes ports basePath ↔
      ∃ suffix ∈ suffixes, ∃ port ∈ ports, { name, suffix, domain, port, basePath } = e := by
  simp [candidates]

theorem length_candidates (name domain : String) (suffixes : List String) (ports : List UInt16) (basePath : String) :
    (candidates name domain suffixes ports basePath).length = suffixes.length * ports.length := by
  induction suffixes with
  | nil => simp [candidates]
  | cons s ss ih =>
    simp only [candidates, List.flatMap_cons, List.length_append, List.length_map] at ih ⊢
    rw [ih, List.length_cons, Nat.succ_mul, Nat.add_comm]

end Endpoint

end PodProbe
