import PodProbe.Http.Header
import PodProbe.Http.Refusal
import PodProbe.Probe

/-!
This module contains the messages in which the requests of probes are sent.
-/

namespace PodProbe.Http

structure Message where
  method : Method
  url : Url
  headers : Headers
  body : Option Json := none

/-- The characters of a host that URLs let pass and request lines do not. -/
def unsentInHost : List Char :=
  ['"', '\x60', '\x7b', '\x7d']

def longestTarget : Nat := 65534

def isSendable (u : Url) : Bool :=
  !((u.host?.map (·.text.toList)).getD []).any unsentInHost.contains && u.text.utf8ByteSize ≤ longestTarget

namespace Message

def header (m : Message) (name value : String) : Except Refusal Message :=
  if !isHeaderName name then .error .headerName
  else if !isHeaderValue value then .error .headerValue
  else .ok { m with headers := m.headers.append name value }

/-- Adds a body, and says what it is unless a header does already. -/
def json (m : Message) (body : Json) : Message :=
  { m with body := some body, headers := m.headers.default "content-type" "application/json" }

/--
The message for a probe. The URL is read before the headers, but only after them it is looked whether the URL can be
sent.
-/
def ofProbe (p : Probe) : Except Refusal Message := do
  let url ← target p.url
  let m : Message := { method := p.request.method, url, headers := [] }
  let m ← p.request.headers.foldlM (fun m (name, value) => m.header name value) m
  let m ← match p.request.cookieHeader? with
    | some cookies => m.header "cookie" cookies
    | none => pure m
  let m := match p.request.body with
    | some body => m.json body
    | none => m
  if !isSendable m.url then throw (.target m.url)
  return { m with headers := m.headers.default "accept" "*/*" }

end Message

end PodProbe.Http
