/-!
This module contains the numbers from which hash functions draw constants that hide nothing: the first bits of the
fractional parts of roots of primes.
-/

namespace PodProbe.Crypto

/-- The greatest number below `2 ^ (bit + 1)` above `r` in its high bits whose power does not exceed `n`. -/
def rootFrom (k n r : Nat) : Nat → Nat
  | 0 => if Nat.pow (r + 1) k ≤ n then r + 1 else r
  | bit + 1 => rootFrom k n (if Nat.pow (r + 1 <<< (bit + 1)) k ≤ n then r + 1 <<< (bit + 1) else r) bit

def root (k n : Nat) : Nat :=
  rootFrom k n 0 (n.log2 / k + 1)

def rootFraction (k bits n : Nat) : Nat :=
  root k (n <<< (k * bits)) % 1 <<< bits

def isPrime (n : Nat) : Bool :=
  2 ≤ n && (List.range n).all fun d => d < 2 || n % d != 0

def primes : List Nat :=
  ((List.range 410).filter isPrime).take 80

end PodProbe.Crypto
