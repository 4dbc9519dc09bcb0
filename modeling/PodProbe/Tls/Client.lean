import PodProbe.Key.Signing
import PodProbe.RunError
import PodProbe.Settings

/-!
This module contains the conditions under which a client can take part in handshakes.
-/

namespace PodProbe.Tls

/--
Fails if there is an identity that a client cannot sign with. Of an identity nothing but the key is looked at, and
without one a client can do without signatures.
-/
def checkIdentity : Option ClientIdentity → Except RunError Unit
  | none => .ok ()
  | some i => if Key.Signing.isUsable i.key then .ok () else .error (.tls (.general "invalid private key"))

end PodProbe.Tls
