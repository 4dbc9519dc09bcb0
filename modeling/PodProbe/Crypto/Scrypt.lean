import PodProbe.Crypto.Sha2

/-!
This module contains the derivation of keys from passwords that takes a given amount of memory.
-/

namespace PodProbe.Crypto.Scrypt

def rotate (x n : UInt32) : UInt32 :=
  (x <<< n) ||| (x >>> (32 - n))

def quarter (w : Array UInt32) (a b c d : Nat) : Array UInt32 :=
  let step (w : Array UInt32) (target x y : Nat) (n : UInt32) : Array UInt32 :=
    w.setIfInBounds target (w.getD target 0 ^^^ rotate (w.getD x 0 + w.getD y 0) n)
  step (step (step (step w b a d 7) c b a 9) d c b 13) a d c 18

def doubleRound (w : Array UInt32) : Array UInt32 :=
  let w := quarter (quarter (quarter (quarter w 0 4 8 12) 5 9 13 1) 10 14 2 6) 15 3 7 11
  quarter (quarter (quarter (quarter w 0 1 2 3) 5 6 7 4) 10 11 8 9) 15 12 13 14

def scramble (w : Array UInt32) : Array UInt32 :=
  (doubleRound (doubleRound (doubleRound (doubleRound w)))).zipWith (· + ·) w

def xorWords (a b : Array UInt32) : Array UInt32 :=
  a.zipWith (· ^^^ ·) b

abbrev Block := Array (Array UInt32)

def xorBlocks (a b : Block) : Block :=
  a.zipWith xorWords b

/-- Mixes each piece into the next one; of the results, those at even places come first. -/
def mixBlock (b : Block) : Block :=
  let (_, even, odd, _) := b.foldl (fun (x, even, odd, isEven) piece =>
    let x := scramble (xorWords x piece)
    if isEven then (x, even.push x, odd, false) else (x, even, odd.push x, true))
    (b.getD (b.size - 1) #[], #[], #[], true)
  even ++ odd

def fill (cost : Nat) (b : Block) : Array Block × Block :=
  (List.range cost).foldl (fun (memory, b) _ => (memory.push b, mixBlock b)) (#[], b)

def index (b : Block) : Nat :=
  let piece := b.getD (b.size - 1) #[]
  (piece.getD 0 0).toNat + (piece.getD 1 0).toNat * 1 <<< 32

def visit (cost : Nat) (memory : Array Block) (b : Block) : Block :=
  (List.range cost).foldl (fun b _ => mixBlock (xorBlocks b (memory.getD (index b % cost) #[]))) b

def ofBytes (bs : Bytes) : Block :=
  ((chunks 64 bs).map fun piece =>
    ((chunks 4 piece).map fun w => UInt32.ofNat (Bytes.toNat w.reverse)).toArray).toArray

def toBytes (b : Block) : Bytes :=
  b.toList.flatMap fun piece => piece.toList.flatMap fun w => (Bytes.ofNat 4 w.toNat).reverse

def mixMemory (cost : Nat) (bs : Bytes) : Bytes :=
  let (memory, b) := fill cost (ofBytes bs)
  toBytes (visit cost memory b)

end PodProbe.Crypto.Scrypt

namespace PodProbe.Crypto

/--
The key of a length that a password and a salt stand for. The memory is `cost` blocks of `128 * blockSize` bytes, and
is filled `lanes` times.
-/
def scrypt (password salt : Bytes) (cost blockSize lanes length : Nat) : Bytes :=
  let size := 128 * blockSize
  let start := sha256.stretch password salt 1 (size * lanes)
  let mixed := (chunks size start).flatMap (Scrypt.mixMemory cost)
  sha256.stretch password mixed 1 length

end PodProbe.Crypto
