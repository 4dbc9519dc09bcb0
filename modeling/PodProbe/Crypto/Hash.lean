import PodProbe.Bytes

/-!
This module contains what the hash functions share: the padding of a message to whole blocks, and the code that a
hash function gives for the authentication of a message under a key.
-/

namespace PodProbe.Crypto

structure Hash where
  blockSize : Nat
  digestSize : Nat
  digest : Bytes → Bytes

def chunks (size : Nat) (bs : Bytes) : List Bytes :=
  go bs.length bs
where
  go : Nat → Bytes → List Bytes
    | 0, _ => []
    | fuel + 1, bs => if bs.isEmpty then [] else bs.take size :: go fuel (bs.drop size)

def padMessage (blockSize lengthSize : Nat) (bs : Bytes) : Bytes :=
  let used := (bs.length + 1 + lengthSize) % blockSize
  let zeros := (blockSize - used) % blockSize
  bs ++ 0x80 :: List.replicate zeros 0 ++ Bytes.ofNat lengthSize (8 * bs.length)

def Hash.blockKey (h : Hash) (key : Bytes) : Bytes :=
  let key := if h.blockSize < key.length then h.digest key else key
  key ++ List.replicate (h.blockSize - key.length) 0

def Hash.hmac (h : Hash) (key message : Bytes) : Bytes :=
  let key := h.blockKey key
  h.digest (key.map (· ^^^ 0x5c) ++ h.digest (key.map (· ^^^ 0x36) ++ message))

def xorBytes (a b : Bytes) : Bytes :=
  a.zipWith (· ^^^ ·) b

def Hash.stretchBlock (h : Hash) (password salt : Bytes) (iterations index : Nat) : Bytes :=
  let first := h.hmac password (salt ++ Bytes.ofNat 4 index)
  go (iterations - 1) first first
where
  go : Nat → Bytes → Bytes → Bytes
    | 0, _, sum => sum
    | n + 1, last, sum =>
      let next := h.hmac password last
      go n next (xorBytes sum next)

def Hash.stretch (h : Hash) (password salt : Bytes) (iterations length : Nat) : Bytes :=
  let blocks := (length + h.digestSize - 1) / h.digestSize
  ((List.range blocks).flatMap fun i => h.stretchBlock password salt iterations (i + 1)).take length

end PodProbe.Crypto
