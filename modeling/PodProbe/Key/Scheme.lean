import PodProbe.Der.Cursor

/-!
This module contains private keys that are encrypted under a password, and the reading of them with the schemes of
their encryption. Of the schemes that leave no choice of a cipher nothing but the name matters.
-/

namespace PodProbe.Key

open Der (Reading Problem Item)
open Der.Reading (refuse lift part)

inductive Mac where
  | sha1
  | sha224
  | sha256
  | sha384
  | sha512
deriving DecidableEq, Repr

inductive Derivation where
  | iterated (salt : Bytes) (iterations : Nat) (length : Option Nat) (mac : Mac)
  | memoryHard (salt : Bytes) (cost blockSize lanes : Nat) (length : Option Nat)
deriving DecidableEq, Repr

structure Cipher where
  keySize : Nat
  start : Bytes
deriving DecidableEq, Repr

inductive Scheme where
  /-- One of the schemes that leave no choice of a cipher. -/
  | fixed
  | composed (derivation : Derivation) (cipher : Cipher)
deriving DecidableEq, Repr

structure Encrypted where
  scheme : Scheme
  contents : Bytes
deriving DecidableEq, Repr

/-! ### Identifiers -/

def composedId : List Nat := [1, 2, 840, 113549, 1, 5, 13]

def iteratedId : List Nat := [1, 2, 840, 113549, 1, 5, 12]

def memoryHardId : List Nat := [1, 3, 6, 1, 4, 1, 11591, 4, 11]

def sha1MacId : List Nat := [1, 2, 840, 113549, 2, 7]

/-- The schemes that leave no choice. -/
def fixedIds : List (List Nat) :=
  [1, 3, 4, 6, 10, 11].map fun n => [1, 2, 840, 113549, 1, 5, n]

def macs : List (List Nat × Mac) := [
  (sha1MacId, .sha1), ([1, 2, 840, 113549, 2, 8], .sha224), ([1, 2, 840, 113549, 2, 9], .sha256),
  ([1, 2, 840, 113549, 2, 10], .sha384), ([1, 2, 840, 113549, 2, 11], .sha512)]

def ciphers : List (List Nat × Nat) := [
  ([2, 16, 840, 1, 101, 3, 4, 1, 2], 16), ([2, 16, 840, 1, 101, 3, 4, 1, 22], 24),
  ([2, 16, 840, 1, 101, 3, 4, 1, 42], 32)]

/-! ### Reading -/

def fault (p : Problem) : Except Der.Fault Scheme :=
  .error { problem := p }

def parameterSequence {α : Type} (i : Item) (r : Reading α) : Except Der.Fault α :=
  if i.tag = .sequence then Reading.run r i.contents
  else .error { problem := .unexpectedTag (some .sequence) i.tag }

def optionalNatural (size : Nat) : Reading (Option Nat) :=
  part (Reading.optional (· == .integer) (Reading.natural size))

def macOf (a : Der.Algorithm) : Except Der.Fault Mac :=
  match a.parameters with
  | none => .error { problem := .wrongValue .null }
  | some i =>
    if i.tag = .null ∧ i.contents.isEmpty then
      match macs.lookup a.identifier with
      | some m => .ok m
      | none => .error { problem := .unknownIdentifier a.identifier }
    else .error { problem := .wrongValue i.tag }

def readIterated : Reading Derivation := do
  let salt ← Reading.octets
  let iterations ← part (Reading.natural 4)
  let length ← optionalNatural 2
  match ← Reading.optional (· == .sequence) Reading.algorithm with
  | some a => return .iterated salt iterations length (← lift (macOf a))
  | none => return .iterated salt iterations length .sha1

def readMemoryHard : Reading Derivation := do
  let salt ← Reading.octets
  let cost ← part (Reading.natural 8)
  let blockSize ← part (Reading.natural 2)
  let lanes ← part (Reading.natural 2)
  return .memoryHard salt cost blockSize lanes (← optionalNatural 2)

def derivationOf (a : Der.Algorithm) : Except Der.Fault Derivation :=
  match a.parameters with
  | none => .error { problem := .wrongValue .octetString }
  | some i =>
    if a.identifier = iteratedId then parameterSequence i readIterated
    else if a.identifier = memoryHardId then parameterSequence i readMemoryHard
    else .error { problem := .unknownIdentifier a.identifier }

def cipherOf (a : Der.Algorithm) : Except Der.Fault Cipher :=
  match a.parameters with
  | none => .error { problem := .wrongValue .octetString }
  | some i =>
    if i.tag ≠ .octetString then .error { problem := .unexpectedTag none i.tag }
    else
      match ciphers.lookup a.identifier with
      | none => .error { problem := .unknownIdentifier a.identifier }
      | some keySize =>
        if i.contents.length = 16 then .ok { keySize, start := i.contents }
        else .error { problem := .wrongValue .octetString }

def readComposed : Reading Scheme := do
  let derivation ← Reading.algorithm
  let cipher ← Reading.algorithm
  let derivation ← lift (derivationOf derivation)
  return .composed derivation (← lift (cipherOf cipher))

/-- The parameters of the schemes that leave no choice: a salt of eight bytes and a number of iterations. -/
def readFixed : Reading Scheme := do
  let salt ← Reading.octets
  if salt.length = 8 then
    let _ ← part (Reading.natural 2)
    return .fixed
  else refuse (.wrongValue .octetString)

def schemeOf (a : Der.Algorithm) : Except Der.Fault Scheme :=
  if a.identifier = composedId then
    match a.parameters with
    | some i => parameterSequence i readComposed
    | none => fault (.wrongValue .octetString)
  else if fixedIds.contains a.identifier then
    match a.parameters with
    | some i => parameterSequence i readFixed
    | none => fault (.wrongValue .octetString)
  else fault (.wrongValue .objectIdentifier)

def readScheme : Reading Scheme := do
  lift (schemeOf (← Reading.algorithm))

def readEncrypted : Reading Encrypted :=
  Reading.sequence do
    let scheme ← part readScheme
    return { scheme, contents := ← Reading.octets }

def Encrypted.ofBytes (bs : Bytes) : Except Der.Fault Encrypted :=
  Reading.run readEncrypted bs

end PodProbe.Key
