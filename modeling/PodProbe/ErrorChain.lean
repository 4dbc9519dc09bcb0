import PodProbe.SystemError
import PodProbe.Tls.Alert

/-!
This module contains the errors that a connection may end in. An error may have a source, which has a source in its
turn, and an error of the system may wrap another error, which then speaks for it.
-/

namespace PodProbe

namespace Tls

inductive CertificateFlaw where
  | badEncoding
  | expired
  | revoked
  | unknownIssuer
  | notValidForName
  | other (detail : String)
deriving DecidableEq, Repr

def CertificateFlaw.message : CertificateFlaw → String
  | badEncoding => "BadEncoding"
  | expired => "Expired"
  | revoked => "Revoked"
  | unknownIssuer => "UnknownIssuer"
  | notValidForName => "NotValidForName"
  | other detail => "Other(" ++ detail ++ ")"

inductive MessageFlaw where
  | invalidContentType
  | tooShort
  | unknownVersion
deriving DecidableEq, Repr

def MessageFlaw.message : MessageFlaw → String
  | invalidContentType => "InvalidContentType"
  | tooShort => "MessageTooShort"
  | unknownVersion => "UnknownProtocolVersion"

inductive Error where
  | alertReceived (alert : Alert)
  | general (text : String)
  | cannotDecrypt
  | noCertificates
  | handshakeIncomplete
  | oversizedRecord
  | noSharedProtocol
  | corruptMessage (flaw : MessageFlaw)
  | invalidCertificate (flaw : CertificateFlaw)
  /-- Any other error, of which nothing counts but its wording. -/
  | other (text : String)
deriving DecidableEq, Repr

def Error.message : Error → String
  | alertReceived alert => "received fatal alert: " ++ alert.name
  | general text => "unexpected error: " ++ text
  | cannotDecrypt => "cannot decrypt peer's message"
  | noCertificates => "peer sent no certificates"
  | handshakeIncomplete => "handshake not complete"
  | oversizedRecord => "peer sent excess record size"
  | noSharedProtocol => "peer doesn't support any known protocol"
  | corruptMessage flaw => "received corrupt message of type " ++ flaw.message
  | invalidCertificate flaw => "invalid peer certificate: " ++ flaw.message
  | other text => text

end Tls

inductive SystemErrorKind where
  | notFound
  | permissionDenied
  | connectionRefused
  | connectionReset
  | invalidData
  | timedOut
  | unexpectedEof
  | other
deriving DecidableEq, Repr

def SystemErrorKind.message : SystemErrorKind → String
  | notFound => "entity not found"
  | permissionDenied => "permission denied"
  | connectionRefused => "connection refused"
  | connectionReset => "connection reset"
  | invalidData => "invalid data"
  | timedOut => "timed out"
  | unexpectedEof => "unexpected end of file"
  | other => "other error"

inductive ErrorChain where
  | text (message : String) (source : Option ErrorChain)
  | system (code : Int)
  | kind (k : SystemErrorKind)
  | wrapped (k : SystemErrorKind) (inner : ErrorChain)
  | tls (e : Tls.Error)
deriving Repr

namespace ErrorChain

def message : ErrorChain → String
  | text m _ => m
  | system code => systemErrorText code
  | kind k => k.message
  | wrapped _ inner => inner.message
  | tls e => e.message

/-- The error that an error of the system wraps. -/
def payload? : ErrorChain → Option ErrorChain
  | wrapped _ inner => some inner
  | _ => none

/-- The error behind an error. A wrapped error is not behind the one that wraps it, but in its place. -/
def source? : ErrorChain → Option ErrorChain
  | text _ source => source
  | wrapped _ inner => inner.source?
  | _ => none

def messages : ErrorChain → List String
  | text m none => [m]
  | text m (some e) => m :: messages e
  | wrapped _ inner => messages inner
  | e => [e.message]

/-- The error of a request. What is said of it names the URL, if there is one, and repeats the cause. -/
def ofRequest (action : String) (url : Option String) (cause : Option ErrorChain) : ErrorChain :=
  .text (action ++ (url.elim "" fun u => " for url (" ++ u ++ ")") ++ cause.elim "" fun e => ": " ++ e.message) cause

/-- The error that what was read is not UTF-8. -/
def notText : ErrorChain :=
  .wrapped .invalidData (.text "stream did not contain valid UTF-8" none)

end ErrorChain

end PodProbe
