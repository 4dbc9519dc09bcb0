import PodProbe.FileTree
import PodProbe.Key.Encrypted
import PodProbe.Pem
import PodProbe.Pkcs12.Password
import PodProbe.RunError
import PodProbe.Settings
import PodProbe.Text.Ascii

/-!
This module contains the keystores that client identities come from: text with blocks for the certificates and the
key, or an archive that is protected by a password.
-/

namespace PodProbe

/-! ### Kinds of keystores -/

inductive KeystoreKind where
  | pem
  | pkcs12
deriving DecidableEq, Repr

def KeystoreKind.ofText (s : String) : Except RunError KeystoreKind :=
  let name := String.ofList (Text.lower s.toList)
  if name = "pem" then .ok .pem
  else if name = "pkcs12" ∨ name = "p12" ∨ name = "pfx" then .ok .pkcs12
  else .error (.keystoreType name)

/-- Why there is no identity in a keystore. -/
inductive KeystoreError where
  | unreadableFile (path cause : String)
  | block (f : Pem.Fault)
  | needsPassword
  | unreadableKey (f : Der.Fault)
  | undecryptableKey (f : Key.DecryptionFault)
  | notArchive (f : Pkcs12.Fault)
  | wrongPassword
  | unreadableCertificates (f : Pkcs12.Fault)
  | noCertificate
  | noKey
deriving DecidableEq, Repr

def KeystoreError.message : KeystoreError → String
  | unreadableFile path cause => "cannot read " ++ path ++ ": " ++ cause
  | block f => f.message
  | needsPassword => "encrypted private key needs a password"
  | unreadableKey f => "unreadable encrypted key: " ++ Key.keyFaultMessage f
  | undecryptableKey f => "cannot decrypt private key: " ++ f.message
  | notArchive f => "not a PKCS#12 keystore: " ++ f.message
  | wrongPassword => "wrong keystore password"
  | unreadableCertificates f => "unreadable certificates: " ++ f.message
  | noCertificate => "no certificate found"
  | noKey => "no private key found"

/-! ### Blocks of text -/

namespace Pem

inductive Role where
  | certificate
  | key
  | encryptedKey
  | none
deriving DecidableEq, Repr

def Block.role (b : Block) : Role :=
  if b.label = "CERTIFICATE" then .certificate
  else if b.label = "PRIVATE KEY" ∨ b.label = "RSA PRIVATE KEY" ∨ b.label = "EC PRIVATE KEY" then .key
  else if b.label = "ENCRYPTED PRIVATE KEY" then .encryptedKey
  else .none

end Pem

structure IdentityDraft where
  certificates : List Bytes := []
  key : Option Bytes := none
deriving DecidableEq, Repr

namespace IdentityDraft

/-- Adds what a block holds. Only the first key counts, so only that one is ever decrypted. -/
def addBlock (decrypt : Bytes → Except KeystoreError Bytes) (d : IdentityDraft) (b : Pem.Block) :
    Except KeystoreError IdentityDraft :=
  match b.role, d.key with
  | .certificate, _ => .ok { d with certificates := d.certificates ++ [b.contents] }
  | .key, none => .ok { d with key := some b.contents }
  | .encryptedKey, none => do
    let key ← decrypt b.contents
    return { d with key := some key }
  | _, _ => .ok d

def addBlocks (decrypt : Bytes → Except KeystoreError Bytes) (d : IdentityDraft) :
    List (Except Pem.Fault Pem.Block) → Except KeystoreError IdentityDraft
  | [] => .ok d
  | .error f :: _ => .error (.block f)
  | .ok b :: bs => do
    let d ← d.addBlock decrypt b
    d.addBlocks decrypt bs

def complete (d : IdentityDraft) : Except KeystoreError ClientIdentity :=
  if d.certificates.isEmpty then .error .noCertificate
  else
    match d.key with
    | some key => .ok { certificates := d.certificates, key }
    | none => .error .noKey

end IdentityDraft

def decryptKey (password : Option String) (bs : Bytes) : Except KeystoreError Bytes := do
  match password with
  | none => throw .needsPassword
  | some p =>
    let k ← (Key.Encrypted.ofBytes bs).mapError .unreadableKey
    (k.decrypt (Bytes.ofString p)).mapError .undecryptableKey

namespace ClientIdentity

def ofBlocks (decrypt : Bytes → Except KeystoreError Bytes) (blocks : List (Except Pem.Fault Pem.Block)) :
    Except KeystoreError ClientIdentity := do
  let d ← IdentityDraft.addBlocks decrypt {} blocks
  d.complete

def ofPem (bs : Bytes) (password : Option String) : Except KeystoreError ClientIdentity :=
  ofBlocks (decryptKey password) (Pem.ofBytes bs)

/-- The identity in an archive; a password that is not given is empty. -/
def ofPkcs12 (bs : Bytes) (password : Option String) : Except KeystoreError ClientIdentity := do
  let password := Pkcs12.passwordBytes (password.getD "")
  let k ← (Pkcs12.Keystore.ofBytes bs).mapError .notArchive
  if k.accepts password then
    let bags ← (k.bags password).mapError .unreadableCertificates
    IdentityDraft.complete { certificates := Pkcs12.certificates bags, key := Pkcs12.key? password bags }
  else throw .wrongPassword

def ofKeystore (kind : KeystoreKind) (bs : Bytes) (password : Option String) : Except KeystoreError ClientIdentity :=
  match kind with
  | .pem => ofPem bs password
  | .pkcs12 => ofPkcs12 bs password

def ofFile (path : String) (contents : Except ErrorChain Bytes) (kind : KeystoreKind) (password : Option String) :
    Except RunError ClientIdentity :=
  let identity :=
    match contents with
    | .ok bs => ofKeystore kind bs password
    | .error e => .error (.unreadableFile path e.message)
  identity.mapError fun e => .clientIdentity e.message

def load (t : FileTree) (path : String) (kind : KeystoreKind) (password : Option String) :
    Except RunError ClientIdentity :=
  ofFile path ((t.read path).mapError FileError.chain) kind password

end ClientIdentity

end PodProbe
