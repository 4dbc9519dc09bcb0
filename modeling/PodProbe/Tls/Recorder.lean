import PodProbe.Certificate

/-!
This module contains the recorder of the certificates that a server presents in a handshake. It accepts all of them.
-/

namespace PodProbe.Tls

/-- What was presented last and not taken yet, the certificate of the server first. -/
structure Recorder where
  chain : List Certificate := []
deriving DecidableEq, Repr

namespace Recorder

def present (leaf : Certificate) (intermediates : List Certificate) (_ : Recorder) : Bool × Recorder :=
  (true, { chain := leaf :: intermediates })

def take (r : Recorder) : List Certificate × Recorder :=
  (r.chain, {})

end Recorder

end PodProbe.Tls
