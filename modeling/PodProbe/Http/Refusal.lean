import PodProbe.ErrorChain
import PodProbe.Url.Reader

/-!
This module contains the reasons for which no request can be made of what is to be sent.
-/

namespace PodProbe.Http

inductive Refusal where
  | url (r : Url.Refusal)
  /-- The URL names no host that could be asked. -/
  | scheme (u : Url)
  /-- The URL has characters that no request line has, or too many. -/
  | target (u : Url)
  | headerName
  | headerValue
deriving DecidableEq, Repr

namespace Refusal

def cause : Refusal → String
  | url r => r.message
  | scheme _ => "URL scheme is not allowed"
  | target _ => "Parsed Url is not a valid Uri"
  | headerName => "invalid HTTP header name"
  | headerValue => "failed to parse header value"

/-- The URL that a refusal names. -/
def url? : Refusal → Option Url
  | scheme u => some u
  | target u => some u
  | _ => none

def chain (r : Refusal) : ErrorChain :=
  .ofRequest "builder error" (r.url?.map Url.text) (some (.text r.cause none))

def message (r : Refusal) : String :=
  r.chain.message

end Refusal

def target (s : String) : Except Refusal Url :=
  match Url.read s with
  | .error r => .error (.url r)
  | .ok u => if u.host?.isSome then .ok u else .error (.scheme u)

end PodProbe.Http
