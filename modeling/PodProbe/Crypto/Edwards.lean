import PodProbe.Crypto.Curve
import PodProbe.Crypto.Sha2

/-!
This module contains the public keys of Ed25519, which are points of the curve `-x ^ 2 + y ^ 2 = 1 + d x ^ 2 y ^ 2`.
-/

namespace PodProbe.Crypto.Edwards

def p : Nat := 1 <<< 255 - 19

def d : Nat :=
  subMod p 0 (121665 * inverseMod p 121666)

structure Point where
  x : Nat
  y : Nat

def neutral : Point := ⟨0, 1⟩

def generator : Point where
  x := 0x216936d3cd6e53fec0a4e231fdd6dc5c692cc7609525a7b2c9562d608f25d51a
  y := 0x6666666666666666666666666666666666666666666666666666666666666658

def add (a b : Point) : Point :=
  let cross := d * a.x * b.x * a.y * b.y % p
  { x := (a.x * b.y + b.x * a.y) * inverseMod p (1 + cross) % p
    y := (a.y * b.y + a.x * b.x) * inverseMod p (subMod p 1 cross) % p }

def multiply (n : Nat) (q : Point) : Point :=
  go (n.log2 + 1) n q neutral
where
  go : Nat → Nat → Point → Point → Point
    | 0, _, _, sum => sum
    | fuel + 1, n, q, sum => go fuel (n / 2) (add q q) (if n % 2 = 1 then add sum q else sum)

/-- The number that a seed stands for: its lowest three bits are not set, and its bit 254 is the highest one. -/
def scalar (seed : Bytes) : Nat :=
  let n := Bytes.toNat ((sha512.digest seed).take 32).reverse
  1 <<< 254 + n % 1 <<< 254 / 8 * 8

def encode (q : Point) : Bytes :=
  (Bytes.ofNat 32 (q.y + (q.x % 2) <<< 255)).reverse

def publicKey (seed : Bytes) : Bytes :=
  encode (multiply (scalar seed) generator)

end PodProbe.Crypto.Edwards
