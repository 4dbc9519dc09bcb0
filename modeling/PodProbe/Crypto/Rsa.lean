import PodProbe.Crypto.Curve

/-!
This module contains the private keys of RSA, and the conditions under which one is used.
-/

namespace PodProbe.Crypto

structure RsaKey where
  modulus : Nat
  publicExponent : Nat
  privateExponent : Nat
  prime1 : Nat
  prime2 : Nat
  exponent1 : Nat
  exponent2 : Nat
  coefficient : Nat
deriving DecidableEq, Repr

namespace RsaKey

def bits (n : Nat) : Nat :=
  if n = 0 then 0 else n.log2 + 1

def hasUsablePublicPart (k : RsaKey) : Bool :=
  k.modulus % 2 == 1 && 2048 ≤ (bits k.modulus + 7) / 8 * 8 && bits k.modulus ≤ 4096
    && k.publicExponent % 2 == 1 && 65537 ≤ k.publicExponent && k.publicExponent < 1 <<< 33

def isUsablePrime (prime exponent : Nat) : Bool :=
  prime % 2 == 1 && bits prime % 512 == 0 && exponent % 2 == 1 && exponent < prime

def isUsable (k : RsaKey) : Bool :=
  let half := (bits k.modulus + 1) / 2
  k.hasUsablePublicPart && bits k.prime1 == half && bits k.prime2 == half && k.prime1 * k.prime2 == k.modulus
    && half < bits k.privateExponent && k.privateExponent < k.modulus && k.privateExponent % 2 == 1
    && isUsablePrime k.prime1 k.exponent1 && isUsablePrime k.prime2 k.exponent2
    && (k.prime1 < k.prime2 || (k.coefficient < k.prime1 && k.coefficient * k.prime2 % k.prime1 == 1))

end RsaKey

end PodProbe.Crypto
