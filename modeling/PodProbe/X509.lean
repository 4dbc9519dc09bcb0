import PodProbe.Certificate
import PodProbe.X509.Name
import PodProbe.X509.Time

/-!
This module contains the reading of certificates as far as their names are concerned: a certificate has names only
if all of it is well formed.
-/

namespace PodProbe.X509

def booleanType : Nat := 1

def integerType : Nat := 2

def bitStringType : Nat := 3

def octetStringType : Nat := 4

def contextClass : Nat := 2

/-- Leaves what follows an integer of at most 32 bits that is not negative. -/
def isVersion (bs : Bytes) : Bool :=
  match Der.readElement bs with
  | some (e, _) =>
    match e.contents with
    | [] => false
    | b :: _ => e.number = integerType && !e.constructed && b < 0x80 && Bytes.toNat e.contents < 1 <<< 32
  | none => false

def skipVersion (bs : Bytes) : Option Bytes :=
  match Der.readElement bs with
  | some (e, rest) =>
    if e.klass = contextClass ∧ e.number = 0 then (if isVersion e.contents then some rest else none) else some bs
  | none => none

def skipSerial (bs : Bytes) : Option Bytes := do
  let (e, rest) ← Der.readElement bs
  if e.number = integerType then return rest else none

def skipAlgorithm (bs : Bytes) : Option Bytes := do
  let (inside, rest) ← Der.readSequence bs
  let (_, parameters) ← readIdentifier inside
  if parameters.isEmpty then return rest
  else
    let _ ← Der.readElement parameters
    return rest

def trailingZeros (b : UInt8) : Nat :=
  ((List.range 8).takeWhile fun i => b.toNat >>> i % 2 = 0).length

/-- The contents of a bit string start with the number of bits that do not count, which have to be zero. -/
def isBitString : Bytes → Bool
  | [] => false
  | [unused] => unused == 0
  | unused :: b :: bs => unused.toNat ≤ trailingZeros ((b :: bs).getLast (by simp))

def skipBitString (bs : Bytes) : Option Bytes := do
  let (e, rest) ← Der.readElement bs
  if e.number = bitStringType ∧ !e.constructed ∧ isBitString e.contents then return rest else none

def skipValidity (bs : Bytes) : Option Bytes := do
  let (inside, rest) ← Der.readSequence bs
  let inside ← skipTime inside
  let _ ← skipTime inside
  return rest

def skipPublicKey (bs : Bytes) : Option Bytes := do
  let (inside, rest) ← Der.readSequence bs
  let inside ← skipAlgorithm inside
  let _ ← skipBitString inside
  return rest

def skipUniqueId (number : Nat) (bs : Bytes) : Option Bytes :=
  if bs.isEmpty then some bs
  else do
    let (e, rest) ← Der.readElement bs
    if e.klass = contextClass ∧ e.number = number then
      if e.constructed ∧ !e.contents.isEmpty then return rest else none
    else return bs

def skipCritical (bs : Bytes) : Bytes :=
  match Der.readElement bs with
  | some (e, rest) => if e.klass = 0 ∧ e.number = booleanType ∧ e.contents.length = 1 then rest else bs
  | none => bs

def readExtension (bs : Bytes) : Option (Unit × Bytes) := do
  let (inside, rest) ← Der.readSequence bs
  let (_, inside) ← readIdentifier inside
  let (value, _) ← Der.readElement (skipCritical inside)
  if value.number = octetStringType ∧ !value.constructed then return ((), rest) else none

/-- Whether nothing or the extensions follow. The tag around them is not asked for its length. -/
def endsInExtensions (bs : Bytes) : Bool :=
  bs.isEmpty ||
    match Der.readHeader bs with
    | some (e, _, inside) =>
      e.number = 3
        && (match Der.readSequence inside with
          | some (list, []) => (readMany readExtension list.length list).2.isEmpty
          | _ => false)
    | none => false

structure Names where
  issuer : Name
  subject : Name
deriving DecidableEq, Repr

def readSigned (bs : Bytes) : Option Names := do
  let bs ← skipVersion bs
  let bs ← skipSerial bs
  let bs ← skipAlgorithm bs
  let (issuer, bs) ← readName bs
  let bs ← skipValidity bs
  let (subject, bs) ← readName bs
  let bs ← skipPublicKey bs
  let bs ← skipUniqueId 1 bs
  let bs ← skipUniqueId 2 bs
  if endsInExtensions bs then return { issuer, subject } else none

/-- The names of a certificate; bytes after it do not matter. -/
def names? (der : Bytes) : Option Names := do
  let (inside, _) ← Der.readSequence der
  let (signed, inside) ← Der.readSequence inside
  let names ← readSigned signed
  let inside ← skipAlgorithm inside
  let _ ← skipBitString inside
  return names

end PodProbe.X509

namespace PodProbe.Certificate

def subject? (c : Certificate) : Option String :=
  (X509.names? c.der).map fun n => n.subject.text

def issuer? (c : Certificate) : Option String :=
  (X509.names? c.der).map fun n => n.issuer.text

end PodProbe.Certificate
