import PodProbe.Http.Message
import PodProbe.Settings
import PodProbe.Tls.Failure
import PodProbe.Tls.Recorder

/-!
This module contains what a client sees of a network: which addresses a name has, and what comes of a message. How a
message fails is read from the errors that lie behind the failure.
-/

namespace PodProbe.Http

/-- Why a message was not answered. -/
structure TransportError where
  chain : ErrorChain
  timeout : Bool := false
  /-- Whether there was no connection yet. -/
  connecting : Bool := false

/-- Why a request was not answered, the URL of the request aside. -/
structure RequestError where
  action : String := "error sending request"
  cause : Option ErrorChain
  timeout : Bool := false
  connecting : Bool := false

/-- The error of a request for a URL. The credentials of a URL are not shown. -/
def RequestError.at (e : RequestError) (url : Url) : TransportError where
  chain := .ofRequest e.action (some url.withoutCredentials.text) e.cause
  timeout := e.timeout
  connecting := e.connecting

namespace TransportError

def refusesConnection : ErrorChain → Bool
  | .system code => code == 111
  | .kind k => k == .connectionRefused
  | .wrapped k inner => k == .connectionRefused || behind inner
  | .text _ (some e) => refusesConnection e
  | _ => false
where
  behind : ErrorChain → Bool
    | .text _ (some e) => refusesConnection e
    | .wrapped _ inner => behind inner
    | _ => false

def text (e : TransportError) : String :=
  ": ".intercalate e.chain.messages

/-- The passages by which a text shows that a name could not be looked up. -/
def lookupMarkers : List String :=
  ["dns error", "failed to lookup address"]

/--
What the failure of an attempt is. A handshake that failed comes first, whatever else the error says, and what is said
about connections counts only while there was none.
-/
def failure (e : TransportError) : Failure :=
  match Tls.classify e.chain with
  | some .clientCertificateRequired => .clientCertificateRequired
  | some (.other m) => .tls m
  | none =>
    if e.timeout then .timeout
    else if !e.connecting then .transport e.text
    else if refusesConnection e.chain then .refused
    else if lookupMarkers.any fun m => Text.occursIn m.toList e.text.toList then .unknownHost
    else .transport e.text

end TransportError

/-- What a server answered. The type of the content counts only if it is ASCII text. -/
structure Answer where
  status : UInt16
  contentType : Option String := none
  body : String

structure Attempt where
  presented : List (Certificate × List Certificate) := []
  ending : Except TransportError Answer

namespace Attempt

/-- A recorder after the handshakes of an attempt. -/
def watch (a : Attempt) (r : Tls.Recorder) : Tls.Recorder :=
  a.presented.foldl (fun r (leaf, intermediates) => (r.present leaf intermediates).2) r

/-- Sends a message. Only a response that was read to its end takes the chain out of the recorder. -/
def send (a : Attempt) (r : Tls.Recorder) : Except Failure Response × Tls.Recorder :=
  let r := a.watch r
  match a.ending with
  | .ok answer =>
    let (chain, r) := r.take
    (.ok { status := answer.status, contentType := answer.contentType, body := answer.body, chain }, r)
  | .error e => (.error e.failure, r)

/--
What an attempt comes to, and what is left in its recorder. A server that rejects a client has shown its own chain
before, so that it is taken after a failure as well.
-/
def conclude (a : Attempt) : Reply × Tls.Recorder :=
  match a.send {} with
  | (.ok response, r) => (.response response, r)
  | (.error f, r) =>
    let (chain, r) := r.take
    (.failure f chain, r)

def reply (a : Attempt) : Reply :=
  a.conclude.1

end Attempt

structure Network where
  /-- The addresses of a name, or why they could not be found out. -/
  lookup : String → Except String (List Url.Host)
  send : Settings → Message → Attempt

end PodProbe.Http
