import PodProbe.Crypto.Edwards
import PodProbe.Crypto.Rsa

/-!
This module contains the private keys that a client can sign with in a handshake: keys of RSA, of two elliptic curves,
and of Ed25519, in the formats in which each of them is accepted.
-/

namespace PodProbe.Key.Signing

/-! ### Elements -/

def readLength? : Bytes → Option (Nat × Bytes)
  | [] => none
  | b :: bs =>
    if b < 0x80 then some (b.toNat, bs)
    else
      match b, bs with
      | 0x81, n :: bs => if 0x80 ≤ n then some (n.toNat, bs) else none
      | 0x82, m :: n :: bs => if m = 0 then none else some (Bytes.toNat [m, n], bs)
      | _, _ => none

def read? (tag : UInt8) : Bytes → Option (Bytes × Bytes)
  | [] => none
  | b :: bs => do
    let (n, bs) ← readLength? bs
    if b = tag ∧ n ≤ bs.length then some (bs.take n, bs.drop n) else none

def only? (tag : UInt8) (bs : Bytes) : Option Bytes := do
  match ← read? tag bs with
  | (contents, []) => some contents
  | _ => none

def skip? (tag : UInt8) (bs : Bytes) : Option (Option Bytes × Bytes) :=
  if bs.head? = some tag then (read? tag bs).map fun (contents, bs) => (some contents, bs) else some (none, bs)

/-- Reads a number that is not negative. -/
def readNatural? (bs : Bytes) : Option (Nat × Bytes) := do
  let (contents, bs) ← read? 0x02 bs
  match contents with
  | [] => none
  | [b] => if b < 0x80 then some (b.toNat, bs) else none
  | b :: c :: _ => if b < 0x80 ∧ (b ≠ 0 ∨ 0x80 ≤ c) then some (Bytes.toNat contents, bs) else none

/-- The bytes of a string of bits, of which no bits may be unused. -/
def wholeBits? : Bytes → Option Bytes
  | 0 :: bs => some bs
  | _ => none

/-! ### Wrapped keys -/

def identifier (bs : Bytes) : Bytes :=
  [0x06, UInt8.ofNat bs.length] ++ bs

def rsaAlgorithm : Bytes :=
  identifier [0x2a, 0x86, 0x48, 0x86, 0xf7, 0x0d, 0x01, 0x01, 0x01] ++ [0x05, 0x00]

def curveKeys : Bytes :=
  identifier [0x2a, 0x86, 0x48, 0xce, 0x3d, 0x02, 0x01]

def p256Name : Bytes :=
  identifier [0x2a, 0x86, 0x48, 0xce, 0x3d, 0x03, 0x01, 0x07]

def p384Name : Bytes :=
  identifier [0x2b, 0x81, 0x04, 0x00, 0x22]

def edwardsAlgorithm : Bytes :=
  identifier [0x2b, 0x65, 0x70]

structure Wrapped where
  key : Bytes
  publicKey : Option Bytes

def readPublicKey? (version : Nat) (bs : Bytes) : Option (Option Bytes × Bytes) := do
  if version = 0 then return (none, bs)
  else
    match ← skip? 0xa1 bs with
    | (some inner, bs) => return (some (← wholeBits? (← only? 0x03 inner)), bs)
    | (none, bs) =>
      let (contents, bs) ← read? 0x81 bs
      return (some (← wholeBits? contents), bs)

def unwrap? (algorithm : Bytes) (versions : Nat) (bs : Bytes) : Option Wrapped := do
  let bs ← only? 0x30 bs
  let (version, bs) ← readNatural? bs
  let (found, bs) ← read? 0x30 bs
  let (key, bs) ← read? 0x04 bs
  let (_, bs) ← skip? 0xa0 bs
  let (publicKey, bs) ← readPublicKey? version bs
  if version < versions ∧ found = algorithm ∧ bs.isEmpty then some { key, publicKey } else none

/-! ### Keys of RSA -/

def rsaKey? (bs : Bytes) : Option Crypto.RsaKey := do
  let bs ← only? 0x30 bs
  let (version, bs) ← readNatural? bs
  let (modulus, bs) ← readNatural? bs
  let (publicExponent, bs) ← readNatural? bs
  let (privateExponent, bs) ← readNatural? bs
  let (prime1, bs) ← readNatural? bs
  let (prime2, bs) ← readNatural? bs
  let (exponent1, bs) ← readNatural? bs
  let (exponent2, bs) ← readNatural? bs
  let (coefficient, bs) ← readNatural? bs
  if version = 0 ∧ bs.isEmpty then
    some {
      modulus, publicExponent, privateExponent, prime1, prime2, exponent1, exponent2, coefficient }
  else none

def isRsa (bs : Bytes) : Bool :=
  (rsaKey? bs).any Crypto.RsaKey.isUsable
    || (((unwrap? rsaAlgorithm 1 bs).bind fun w => rsaKey? w.key).any Crypto.RsaKey.isUsable)

/-! ### Keys of elliptic curves -/

structure CurveKey where
  number : Bytes
  point : Bytes

/-- Reads a key that names no other curve than the given one. -/
def curveKey? (name : Bytes) (bs : Bytes) : Option CurveKey := do
  let bs ← only? 0x30 bs
  let (version, bs) ← readNatural? bs
  let (number, bs) ← read? 0x04 bs
  let (named, bs) ← skip? 0xa0 bs
  let (bits, bs) ← read? 0xa1 bs
  let point ← wholeBits? (← only? 0x03 bits)
  if version = 1 ∧ named.all (· == name) ∧ bs.isEmpty then some { number, point } else none

def CurveKey.isUsable (c : Crypto.Curve) (k : CurveKey) : Bool :=
  let n := Bytes.toNat k.number
  k.number.length == c.size && 0 < n && n < c.order
    && match c.multiply n c.generator with
      | some (x, y) => k.point == 4 :: Bytes.ofNat c.size x ++ Bytes.ofNat c.size y
      | none => false

def isCurve (c : Crypto.Curve) (name : Bytes) (bs : Bytes) : Bool :=
  (((unwrap? (curveKeys ++ name) 1 bs).bind fun w => curveKey? name w.key).any (CurveKey.isUsable c))
    || ((curveKey? name bs).any (CurveKey.isUsable c))

/-! ### Keys of Ed25519 -/

def isEdwards (bs : Bytes) : Bool :=
  match unwrap? edwardsAlgorithm 2 bs with
  | none => false
  | some w =>
    match only? 0x04 w.key with
    | none => false
    | some seed => seed.length == 32 && w.publicKey.all (· == Crypto.Edwards.publicKey seed)

def isUsable (bs : Bytes) : Bool :=
  isRsa bs || isCurve Crypto.p256 p256Name bs || isCurve Crypto.p384 p384Name bs || isEdwards bs

end PodProbe.Key.Signing
