import PodProbe.Certificate
import PodProbe.Endpoint
import PodProbe.Failure
import PodProbe.Json.Reader
import PodProbe.Request
import PodProbe.Text.Ascii
import PodProbe.Text.Blank

/-!
This module contains probes: a request to one path of an endpoint together with what the latest attempt at it gave.
An attempt ends in a reply, which is a response or a failure, and a response is judged by the statuses and the
content type that the request expects.
-/

namespace PodProbe

structure Response where
  status : UInt16
  contentType : Option String
  body : String
  chain : List Certificate

inductive Reply where
  | response (r : Response)
  | failure (f : Failure) (chain : List Certificate)

structure Probe where
  endpoint : Endpoint
  path : String
  request : Request
  status : Option UInt16 := none
  contentType : Option String := none
  body : Option String := none
  json : Option Json := none
  chain : List Certificate := []
  failure? : Option Failure := some .notAttempted
  isFailedCertAuth : Bool := false
  unhealthy : Bool := false
  isValid : Bool := false

/-- A probe of a path below the endpoint that was not attempted yet. -/
def Endpoint.probe (e : Endpoint) (path : String) (expectedContentType : Option String) : Probe where
  endpoint := e
  path := path
  request := { expectedContentType }

namespace Probe

/-- A probe of another path of the same endpoint that was not attempted yet. -/
def withPath (p : Probe) (path : String) (expectedContentType : Option String) : Probe :=
  p.endpoint.probe path expectedContentType

/-! ### The request -/

def post (p : Probe) : Probe :=
  { p with request := { p.request with method := .post } }

def postJson (p : Probe) (body : Json) : Probe :=
  { p with request := { p.request with method := .post, body := some body } }

def header (p : Probe) (name value : String) : Probe :=
  { p with request := { p.request with headers := p.request.headers ++ [(name, value)] } }

def cookie (p : Probe) (name value : String) : Probe :=
  { p with request := { p.request with cookies := p.request.cookies ++ [(name, value)] } }

def expectStatuses (p : Probe) (statuses : List UInt16) : Probe :=
  { p with request := { p.request with expectedStatuses := statuses } }

def baseUrl (p : Probe) : String :=
  p.endpoint.baseUrl

def url (p : Probe) : String :=
  p.endpoint.baseUrl ++ p.path

/-! ### The result -/

def isFailed (p : Probe) : Bool :=
  p.failure?.isSome

def serverCertificate? (p : Probe) : Option Certificate :=
  p.chain.head?

def rootCertificate? (p : Probe) : Option Certificate :=
  p.chain.getLast?

/-- Declares a probe valid, which is refused if it has failed. -/
def markValid (p : Probe) : Bool × Probe :=
  if p.isFailed then (false, p) else (true, { p with isValid := true })

def setUnhealthy (p : Probe) : Probe :=
  { p with unhealthy := true }

def fail (p : Probe) (f : Failure) : Probe :=
  { p with failure? := some f, isFailedCertAuth := f == .clientCertificateRequired, isValid := false }

/-- Keeps a chain that was presented in a handshake, unless it is empty. -/
def recordChain (p : Probe) (chain : List Certificate) : Probe :=
  if chain.isEmpty then p else { p with chain }

def essence (contentType : String) : List Char :=
  Text.trim (contentType.toList.takeWhile (· != ';'))

def matchesContentType (expected actual : String) : Bool :=
  Text.sameIgnoringCase (essence actual) expected.toList

def namesJson (contentType : String) : Bool :=
  Text.occursIn "json".toList contentType.toList

def acceptsContentType (r : Request) (actual : Option String) : Bool :=
  match r.expectedContentType with
  | some expected => actual.any (matchesContentType expected)
  | none => true

def wantsJson (r : Request) (actual : Option String) : Bool :=
  match r.expectedContentType with
  | some expected => namesJson expected
  | none => actual.any namesJson

/--
Judges a response. The chain, the status and the content type are kept whatever the verdict; the body is kept unless
the status is unexpected; and only a body that reads as JSON replaces the payload.
-/
def respond (p : Probe) (r : Response) : Probe :=
  let p := { p with
    chain := r.chain, status := some r.status, contentType := r.contentType, isFailedCertAuth := false, isValid := false }
  if !p.request.expectedStatuses.contains r.status then p.fail (.unexpectedStatus r.status)
  else
    let p := { p with body := some r.body }
    if !acceptsContentType p.request r.contentType then
      p.fail (.unexpectedContentType (p.request.expectedContentType.getD "") r.contentType)
    else if wantsJson p.request r.contentType && !(Text.trim r.body.toList).isEmpty then
      match Json.ofText r.body with
      | .ok json => { p with json := some json, failure? := none }
      | .error text => p.fail (.malformedJson text)
    else { p with failure? := none }

def receive (p : Probe) : Reply → Probe
  | .response r => p.respond r
  | .failure f chain => (p.fail f).recordChain chain

end Probe

end PodProbe
