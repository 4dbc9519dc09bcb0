import PodProbe.Crypto.Aes
import PodProbe.Crypto.Scrypt
import PodProbe.Key.Scheme

/-!
This module contains the decryption of private keys under a password. The password is stretched to a key of AES by
one of two derivations.
-/

namespace PodProbe.Key

open Der (Reading)

inductive DecryptionFault where
  /-- The padding is none, in most cases because the password is wrong. -/
  | padding
  | fixedScheme
  | unsupported (identifier : List Nat)
  | parameters (identifier : List Nat)
  /-- What was decrypted is no key. -/
  | notKey (f : Der.Fault)
deriving DecidableEq, Repr

def keyFaultMessage (f : Der.Fault) : String :=
  "PKCS#8 ASN.1 error: " ++ f.message

def DecryptionFault.message : DecryptionFault → String
  | padding => "PKCS#5 encryption failed"
  | fixedScheme => "PKCS#5 encryption/decryption unsupported for PBES1 (won't fix)"
  | unsupported i => "PKCS#5 algorithm " ++ Der.dotted i ++ " is unsupported"
  | parameters i => "PKCS#5 parameters for algorithm " ++ Der.dotted i ++ " are invalid"
  | notKey f => keyFaultMessage f

def Mac.hash? : Mac → Option Crypto.Hash
  | sha1 => none
  | sha224 => some Crypto.sha224
  | sha256 => some Crypto.sha256
  | sha384 => some Crypto.sha384
  | sha512 => some Crypto.sha512

def canMix (cost blockSize lanes : Nat) : Bool :=
  cost != 0 && cost == 1 <<< cost.log2 && blockSize != 0 && lanes != 0 && cost.log2 < 16 * blockSize
    && blockSize * lanes < 1 <<< 30

def Derivation.key (password : Bytes) (keySize : Nat) : Derivation → Except DecryptionFault Bytes
  | iterated salt iterations length mac =>
    if length.any (· != keySize) then .error (.parameters iteratedId)
    else
      match mac.hash? with
      | none => .error (.unsupported sha1MacId)
      | some h => .ok (h.stretch password salt iterations keySize)
  | memoryHard salt cost blockSize lanes length =>
    if length.any (· != keySize) then .error (.parameters memoryHardId)
    else if canMix cost blockSize lanes then .ok (Crypto.scrypt password salt cost blockSize lanes keySize)
    else .error (.parameters memoryHardId)

/-- Fails unless bytes are one sequence. -/
def checkSequence (bs : Bytes) : Except Der.Fault Unit :=
  let readHeader : Reading Nat := do
    let n ← Reading.expect .sequence
    return (← Reading.position) + n
  match (readHeader (Der.Cursor.ofBytes bs)).1 with
  | .error e => .error e
  | .ok n => Reading.run (do let _ ← Reading.take n) bs

def Encrypted.decrypt (k : Encrypted) (password : Bytes) : Except DecryptionFault Bytes := do
  match k.scheme with
  | .fixed => throw .fixedScheme
  | .composed derivation cipher =>
    let key ← derivation.key password cipher.keySize
    match (Crypto.aes key).decrypt? cipher.start k.contents with
    | none => throw .padding
    | some bs =>
      match checkSequence bs with
      | .error f => throw (.notKey f)
      | .ok _ => return bs

end PodProbe.Key
