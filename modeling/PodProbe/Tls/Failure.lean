import PodProbe.ErrorChain
import PodProbe.Text.Ascii

/-!
This module contains the reading of failed handshakes: whether a failure is one of TLS at all, and whether the server
asks for a client certificate by it.
-/

namespace PodProbe.Tls

inductive HandshakeFailure where
  | clientCertificateRequired
  | other (text : String)
deriving DecidableEq, Repr

def HandshakeFailure.text? : HandshakeFailure → Option String
  | clientCertificateRequired => none
  | other text => some text

def clientCertificateMarkers : List String := [
  "bad_certificate", "certificate_unknown", "certificate_required",
  "badcertificate", "certificateunknown", "certificaterequired"]

def demandsClientCertificate (message : String) : Bool :=
  clientCertificateMarkers.any fun m => Text.occursIn m.toList (Text.lower message.toList)

def Error.demandsClientCertificate : Error → Bool
  | alertReceived alert => alert.demandsClientCertificate || Tls.demandsClientCertificate (Error.message (.alertReceived alert))
  | e => Tls.demandsClientCertificate e.message

/--
Goes through an error and all that is behind it. A single sign that the server wants a client certificate is enough;
otherwise the first error of TLS counts, of which `seen` is the message if it was met before. What an error wraps is gone
through on its own first, with all that is behind it, and then what is behind the error itself.
-/
def classifyFrom (seen : Option String) : ErrorChain → Option HandshakeFailure
  | .text m source =>
    if demandsClientCertificate m then some .clientCertificateRequired
    else
      match source with
      | some e => classifyFrom seen e
      | none => seen.map .other
  | .wrapped _ inner =>
    match classifyFrom none inner with
    | some .clientCertificateRequired => some .clientCertificateRequired
    | found =>
      if demandsClientCertificate inner.message then some .clientCertificateRequired
      else behind (seen.or (found.bind HandshakeFailure.text?)) inner
  | .tls e =>
    if e.demandsClientCertificate then some .clientCertificateRequired else some (.other (seen.getD e.message))
  | e => if demandsClientCertificate e.message then some .clientCertificateRequired else seen.map .other
where
  behind (seen : Option String) : ErrorChain → Option HandshakeFailure
    | .text _ (some e) => classifyFrom seen e
    | .wrapped _ inner => behind seen inner
    | _ => seen.map .other

def classify (e : ErrorChain) : Option HandshakeFailure :=
  classifyFrom none e

end PodProbe.Tls
