/-!
This module contains the reasons for which an attempt on an endpoint counts as failed.
-/

namespace PodProbe

inductive Failure where
  | notAttempted
  | unknownHost
  /-- The server ended the handshake because it was offered no certificate that it accepts. -/
  | clientCertificateRequired
  | tls (text : String)
  | timeout
  | refused
  | transport (text : String)
  | unexpectedStatus (status : UInt16)
  | unexpectedContentType (expected : String) (actual : Option String)
  | malformedJson (text : String)
deriving DecidableEq, Repr

def Failure.message : Failure → String
  | notAttempted => "not attempted"
  | unknownHost => "unknown host"
  | clientCertificateRequired => "client certificate required"
  | tls text => "TLS failure: " ++ text
  | timeout => "timed out"
  | refused => "connection refused"
  | transport text => text
  | unexpectedStatus status => "unexpected HTTP status " ++ toString status.toNat
  | unexpectedContentType expected actual =>
    "expected content type " ++ expected ++ " but got " ++ actual.getD "none"
  | malformedJson text => "malformed JSON: " ++ text

/-- A failure without its details. -/
def Failure.kind : Failure → Failure
  | tls _ => tls ""
  | transport _ => transport ""
  | unexpectedStatus _ => unexpectedStatus 0
  | unexpectedContentType _ _ => unexpectedContentType "" none
  | malformedJson _ => malformedJson ""
  | f => f

end PodProbe
