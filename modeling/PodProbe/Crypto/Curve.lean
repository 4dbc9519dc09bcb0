/-!
This module contains elliptic curves `y ^ 2 = x ^ 3 - 3 x + b` over prime fields, and the multiples of their points.
-/

namespace PodProbe.Crypto

def powMod (m base exponent : Nat) : Nat :=
  go (exponent.log2 + 1) (base % m) exponent (1 % m)
where
  go : Nat → Nat → Nat → Nat → Nat
    | 0, _, _, product => product
    | fuel + 1, square, e, product =>
      go fuel (square * square % m) (e / 2) (if e % 2 = 1 then product * square % m else product)

def inverseMod (p n : Nat) : Nat :=
  powMod p n (p - 2)

def subMod (m a b : Nat) : Nat :=
  (a + m - b % m) % m

structure Curve where
  p : Nat
  b : Nat
  order : Nat
  x : Nat
  y : Nat
  size : Nat

abbrev Point := Option (Nat × Nat)

namespace Curve

def generator (c : Curve) : Point :=
  some (c.x, c.y)

def along (c : Curve) (slope x y x' : Nat) : Point :=
  let x'' := subMod c.p (slope * slope) (x + x')
  some (x'', subMod c.p (slope * subMod c.p x x'') y)

def double (c : Curve) : Point → Point
  | none => none
  | some (x, y) =>
    if y = 0 then none
    else c.along (subMod c.p (3 * x * x) 3 * inverseMod c.p (2 * y) % c.p) x y x

def add (c : Curve) : Point → Point → Point
  | none, q => q
  | p, none => p
  | some (x, y), some (x', y') =>
    if x = x' then if y = y' then c.double (some (x, y)) else none
    else c.along (subMod c.p y' y * inverseMod c.p (subMod c.p x' x) % c.p) x y x'

def multiply (c : Curve) (n : Nat) (q : Point) : Point :=
  go (n.log2 + 1) n q none
where
  go : Nat → Nat → Point → Point → Point
    | 0, _, _, sum => sum
    | fuel + 1, n, q, sum => go fuel (n / 2) (c.double q) (if n % 2 = 1 then c.add sum q else sum)

end Curve

def p256 : Curve where
  p := 0xffffffff00000001000000000000000000000000ffffffffffffffffffffffff
  b := 0x5ac635d8aa3a93e7b3ebbd55769886bc651d06b0cc53b0f63bce3c3e27d2604b
  order := 0xffffffff00000000ffffffffffffffffbce6faada7179e84f3b9cac2fc632551
  x := 0x6b17d1f2e12c4247f8bce6e563a440f277037d812deb33a0f4a13945d898c296
  y := 0x4fe342e2fe1a7f9b8ee7eb4a7c0f9e162bce33576b315ececbb6406837bf51f5
  size := 32

def p384 : Curve where
  p := 0xfffffffffffffffffffffffffffffffffffffffffffffffffffffffffffffffeffffffff0000000000000000ffffffff
  b := 0xb3312fa7e23ee7e4988e056be3f82d19181d9c6efe8141120314088f5013875ac656398d8a2ed19d2a85c8edd3ec2aef
  order := 0xffffffffffffffffffffffffffffffffffffffffffffffffc7634d81f4372ddf581a0db248b0a77aecec196accc52973
  x := 0xaa87ca22be8b05378eb1c71ef320ad746e1d3b628ba79b9859f741e082542a385502f25dbf55296c3a545e3872760ab7
  y := 0x3617de4a96262c6f5d9e98bf9292dc29f8f41dbd289a147ce9da3113b5f0b8c00a60b1ce1d7e819d7a431d7c90ea0e5f
  size := 48

end PodProbe.Crypto
