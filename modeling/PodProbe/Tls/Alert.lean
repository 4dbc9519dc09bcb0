/-!
This module contains the alerts by which a peer ends a handshake.
-/

namespace PodProbe.Tls

structure Alert where
  code : Nat
deriving DecidableEq, Repr

namespace Alert

def names : List (Nat × String) := [
  (0, "CloseNotify"), (10, "UnexpectedMessage"), (20, "BadRecordMac"), (21, "DecryptionFailed"),
  (22, "RecordOverflow"), (30, "DecompressionFailure"), (40, "HandshakeFailure"), (41, "NoCertificate"),
  (42, "BadCertificate"), (43, "UnsupportedCertificate"), (44, "CertificateRevoked"), (45, "CertificateExpired"),
  (46, "CertificateUnknown"), (47, "IllegalParameter"), (48, "UnknownCA"), (49, "AccessDenied"),
  (50, "DecodeError"), (51, "DecryptError"), (60, "ExportRestriction"), (70, "ProtocolVersion"),
  (71, "InsufficientSecurity"), (80, "InternalError"), (86, "InappropriateFallback"), (90, "UserCanceled"),
  (100, "NoRenegotiation"), (109, "MissingExtension"), (110, "UnsupportedExtension"),
  (111, "CertificateUnobtainable"), (112, "UnrecognisedName"), (113, "BadCertificateStatusResponse"),
  (114, "BadCertificateHashValue"), (115, "UnknownPSKIdentity"), (116, "CertificateRequired"),
  (120, "NoApplicationProtocol")]

def name (a : Alert) : String :=
  (names.lookup a.code).getD ("Unknown(" ++ toString a.code ++ ")")

def badCertificate : Alert := ⟨42⟩

def certificateUnknown : Alert := ⟨46⟩

def certificateRequired : Alert := ⟨116⟩

/-- Whether a server ends the handshake with this alert because it wants another client certificate. -/
def demandsClientCertificate (a : Alert) : Bool :=
  a == badCertificate || a == certificateUnknown || a == certificateRequired

end Alert

end PodProbe.Tls
