import PodProbe.Crypto.Sha1
import PodProbe.Crypto.Sha2
import PodProbe.Text.Literal
import PodProbe.X509

/-!
This module contains the fingerprints by which certificates are told apart in print and in file names.
-/

namespace PodProbe.Certificate

def sha1Hex (c : Certificate) : String :=
  (Crypto.sha1.digest c.der).toHex

def sha256Hex (c : Certificate) : String :=
  (Crypto.sha256.digest c.der).toHex

def inspect (c : Certificate) : String :=
  let subject :=
    match c.subject? with
    | some s => "Some(" ++ Text.literal s ++ ")"
    | none => "None"
  "HarvestedCertificate \x7b sha256: " ++ Text.literal c.sha256Hex ++ ", subject: " ++ subject ++ " \x7d"

end PodProbe.Certificate
