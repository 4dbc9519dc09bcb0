import PodProbe.Pkcs12.Reader

/-!
This module contains keystores: bags with certificates and encrypted keys, which lie in contents that may themselves
be encrypted, and a code that authenticates all contents under a password.
-/

namespace PodProbe.Pkcs12

inductive Scheme where
  | rc2 (salt : Bytes) (iterations : Nat)
  | tripleDes (salt : Bytes) (iterations : Nat)
  | other
deriving DecidableEq, Repr

structure Sealed where
  scheme : Scheme
  bytes : Bytes
deriving DecidableEq, Repr

inductive Content where
  | plain (bytes : Bytes)
  | encrypted (s : Sealed)
  | other
deriving DecidableEq, Repr

inductive Bag where
  | certificate (der : Bytes)
  | key (s : Sealed)
  | other
deriving DecidableEq, Repr

structure MacData where
  code : Bytes
  salt : Bytes
  iterations : Nat
deriving DecidableEq, Repr

structure Keystore where
  content : Content
  mac : Option MacData
deriving DecidableEq, Repr

/-! ### Identifiers -/

def pkcs7 (n : Nat) : List Nat := [1, 2, 840, 113549, 1, 7, n]

def pkcs9 (ns : List Nat) : List Nat := [1, 2, 840, 113549, 1, 9] ++ ns

def pkcs12 (ns : List Nat) : List Nat := [1, 2, 840, 113549, 1, 12] ++ ns

def sha1Id : List Nat := [1, 3, 14, 3, 2, 26]

/-! ### Reading -/

def readParameters : Bytes → Result ((Bytes × Nat) × Bytes) :=
  readSequence fun bs => do
    let (salt, bs) ← readOctets bs
    let (iterations, bs) ← readNatural 64 bs
    return ((salt, iterations), bs)

def readScheme : Bytes → Result (Scheme × Bytes) :=
  readSequence fun bs => do
    let (id, bs) ← readIdentifier bs
    if id = sha1Id then
      let (_, bs) ← ifTagged .null readNull bs
      return (.other, bs)
    else if id = pkcs12 [1, 6] then
      let ((salt, iterations), bs) ← readParameters bs
      return (.rc2 salt iterations, bs)
    else if id = pkcs12 [1, 3] then
      let ((salt, iterations), bs) ← readParameters bs
      return (.tripleDes salt iterations, bs)
    else
      let (_, bs) ← ifAny bs
      return (.other, bs)

def readTaggedOctets (tag : Tag) : Bytes → Result (Bytes × Bytes) :=
  readPrimitive tag .ok

def readEncryptedContent : Bytes → Result (Sealed × Bytes) :=
  readSequence fun bs => do
    let (_, bs) ← readIdentifier bs
    let (scheme, bs) ← readScheme bs
    let (bytes, bs) ← readTaggedOctets (.context 0) bs
    return ({ scheme, bytes }, bs)

def readEncrypted : Bytes → Result (Sealed × Bytes) :=
  readSequence fun bs => do
    let (_, bs) ← readNatural 8 bs
    readEncryptedContent bs

def readContent : Bytes → Result (Content × Bytes) :=
  readSequence fun bs => do
    let (id, bs) ← readIdentifier bs
    if id = pkcs7 1 then
      let (bytes, bs) ← readTagged (.context 0) readOctets bs
      return (.plain bytes, bs)
    else if id = pkcs7 6 then
      let (s, bs) ← readTagged (.context 0) readEncrypted bs
      return (.encrypted s, bs)
    else
      let (_, bs) ← readTagged (.context 0) skipElement bs
      return (.other, bs)

def readMacData : Bytes → Result (MacData × Bytes) :=
  readSequence fun bs => do
    let (code, bs) ← readSequence (fun bs => do
      let (_, bs) ← readScheme bs
      readOctets bs) bs
    let (salt, bs) ← readOctets bs
    let (iterations, bs) ← readNatural 32 bs
    return ({ code, salt, iterations }, bs)

def readKeystore : Bytes → Result (Keystore × Bytes) :=
  readSequence fun bs => do
    let (_, bs) ← readNatural 8 bs
    let (content, bs) ← readContent bs
    let (mac, bs) ← ifTagged .sequence readMacData bs
    return ({ content, mac }, bs)

def Keystore.ofBytes (bs : Bytes) : Except Fault Keystore :=
  readAll readKeystore bs

/-! ### Bags -/

def checkAscii (bs : Bytes) : Except Fault Unit :=
  if bs.all (· < 0x80) then .ok () else .error .invalid

def readCertificate : Bytes → Result (Bag × Bytes) :=
  readSequence fun bs => do
    let (id, bs) ← readIdentifier bs
    if id = pkcs9 [22, 1] then
      let (der, bs) ← readTagged (.context 0) readOctets bs
      return (.certificate der, bs)
    else if id = pkcs9 [22, 2] then
      let (_, bs) ← readTagged (.context 0) (readPrimitive .asciiString checkAscii) bs
      return (.other, bs)
    else .error .invalid

def readKey : Bytes → Result (Bag × Bytes) :=
  readSequence fun bs => do
    let (scheme, bs) ← readScheme bs
    let (bytes, bs) ← readOctets bs
    return (.key { scheme, bytes }, bs)

def readBagOf (id : List Nat) (bs : Bytes) : Result (Bag × Bytes) :=
  if id = pkcs12 [10, 1, 3] then readCertificate bs
  else if id = pkcs12 [10, 1, 2] then readKey bs
  else do
    let (_, bs) ← skipElement bs
    return (.other, bs)

/-- Whether bytes are a text in units of two bytes, in which surrogates stand in pairs only. -/
def checkWide : Bytes → Except Fault Unit
  | [] => .ok ()
  | [_] => .error .invalid
  | a :: _ :: bs =>
    if 0xd8 ≤ a ∧ a < 0xdc then
      match bs with
      | c :: _ :: bs => if 0xdc ≤ c ∧ c < 0xe0 then checkWide bs else .error .invalid
      | _ => .error .invalid
    else if 0xdc ≤ a ∧ a < 0xe0 then .error .invalid
    else checkWide bs

/-- Fails if there are no values. -/
def atLeastOne {α : Type} : List α × Bytes → Result (Unit × Bytes)
  | ([], _) => .error .invalid
  | (_, bs) => .ok ((), bs)

/-- Reads an attribute of a bag, which does not matter, but has to be well formed. -/
def readAttribute : Bytes → Result (Unit × Bytes) :=
  readSequence fun bs => do
    let (id, bs) ← readIdentifier bs
    if id = pkcs9 [20] then
      atLeastOne (← readSet (ifTagged .wideString (readPrimitive .wideString checkWide)) bs)
    else if id = pkcs9 [21] then
      atLeastOne (← readSet (ifTagged .octetString readOctets) bs)
    else
      let (_, bs) ← readSet ifAny bs
      return ((), bs)

def readBag : Bytes → Result (Bag × Bytes) :=
  readSequence fun bs => do
    let (id, bs) ← readIdentifier bs
    let (bag, bs) ← readTagged (.context 0) (readBagOf id) bs
    let (_, bs) ← ifTagged .set (readSet (ifTagged .sequence readAttribute)) bs
    return (bag, bs)

def bagsOfBytes (bs : Bytes) : Except Fault (List Bag) :=
  readAll (readList (ifTagged .sequence readBag)) bs

def contentsOfBytes (bs : Bytes) : Except Fault (List Content) :=
  readAll (readList (ifTagged .sequence readContent)) bs

end PodProbe.Pkcs12
