import PodProbe.Crypto.Hash

/-!
This module contains what the block ciphers share: the chaining of blocks, and the padding of a plaintext to whole
blocks. Only the way back from a ciphertext to its plaintext is needed.
-/

namespace PodProbe.Crypto

structure BlockCipher where
  blockSize : Nat
  decryptBlock : Bytes → Bytes

def BlockCipher.decryptChained (c : BlockCipher) (previous : Bytes) : List Bytes → Bytes
  | [] => []
  | block :: blocks => xorBytes previous (c.decryptBlock block) ++ decryptChained c block blocks

def unpad? (blockSize : Nat) (bs : Bytes) : Option Bytes := do
  let last ← bs.getLast?
  let count := last.toNat
  if count = 0 ∨ blockSize < count ∨ bs.length < count then none
  else
    let (text, padding) := bs.splitAt (bs.length - count)
    if padding.all (· == last) then some text else none

/-- The plaintext of a padded and chained ciphertext, unless its blocks are not whole or its padding is none. -/
def BlockCipher.decrypt? (c : BlockCipher) (start bs : Bytes) : Option Bytes :=
  if bs.length % c.blockSize = 0 then unpad? c.blockSize (c.decryptChained start (chunks c.blockSize bs)) else none

end PodProbe.Crypto
