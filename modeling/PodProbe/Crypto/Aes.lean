import PodProbe.Crypto.BlockCipher

/-!
This module contains the block cipher AES. Its bytes are polynomials over two elements modulo
`x ^ 8 + x ^ 4 + x ^ 3 + x + 1`, and its blocks are four columns of four bytes.
-/

namespace PodProbe.Crypto.Aes

def double (a : UInt8) : UInt8 :=
  if a < 0x80 then a <<< 1 else (a <<< 1) ^^^ 0x1b

def mul (a b : UInt8) : UInt8 :=
  go 8 a b 0
where
  go : Nat → UInt8 → UInt8 → UInt8 → UInt8
    | 0, _, _, sum => sum
    | n + 1, a, b, sum => go n (double a) (b >>> 1) (if b &&& 1 = 1 then sum ^^^ a else sum)

/-- The inverse of a byte, where zero counts as its own. It is the power with exponent 254. -/
def inverse (a : UInt8) : UInt8 :=
  go 7 (mul a a) 1
where
  go : Nat → UInt8 → UInt8 → UInt8
    | 0, _, product => product
    | n + 1, square, product => go n (mul square square) (mul product square)

def rotateByte (a n : UInt8) : UInt8 :=
  (a <<< n) ||| (a >>> (8 - n))

def substitute (a : UInt8) : UInt8 :=
  let b := inverse a
  b ^^^ rotateByte b 1 ^^^ rotateByte b 2 ^^^ rotateByte b 3 ^^^ rotateByte b 4 ^^^ 0x63

def substitutes : Array UInt8 :=
  ((List.range 256).map fun n => substitute (UInt8.ofNat n)).toArray

def unsubstituted : Array UInt8 :=
  (List.range 256).foldl (fun t n => t.setIfInBounds (substitutes.getD n 0).toNat (UInt8.ofNat n))
    (Array.replicate 256 0)

def substituteAll (bs : Bytes) : Bytes :=
  bs.map fun b => substitutes.getD b.toNat 0

def restoreAll (bs : Bytes) : Bytes :=
  bs.map fun b => unsubstituted.getD b.toNat 0

/-! ### Keys -/

/-- The constant that goes into every group of words but the first. -/
def groupConstant : Nat → UInt8
  | 0 => 0x8d
  | n + 1 => double (groupConstant n)

def rotateWord : Bytes → Bytes
  | [] => []
  | b :: bs => bs ++ [b]

/-- What the next word is combined with, where `keyWords` is the number of words in the key. -/
def nextTerm (keyWords i : Nat) (last : Bytes) : Bytes :=
  if i % keyWords = 0 then
    xorBytes (substituteAll (rotateWord last)) [groupConstant (i / keyWords), 0, 0, 0]
  else if 6 < keyWords ∧ i % keyWords = 4 then substituteAll last
  else last

def roundKeys (key : Bytes) : List Bytes :=
  let keyWords := key.length / 4
  let words := (List.range (4 * (keyWords + 7) - keyWords)).foldl (fun (ws : Array Bytes) i =>
    let last := ws.getD (i + keyWords - 1) []
    ws.push (xorBytes (ws.getD i []) (nextTerm keyWords (i + keyWords) last))) (chunks 4 key).toArray
  chunks 16 words.toList.flatten

/-! ### Blocks -/

/-- Moves each row back to where it was before its bytes were shifted. -/
def unshiftRows (block : Bytes) : Bytes :=
  let bytes := block.toArray
  [0, 13, 10, 7, 4, 1, 14, 11, 8, 5, 2, 15, 12, 9, 6, 3].map fun i => bytes.getD i 0

def unmixColumn : Bytes → Bytes
  | [a, b, c, d] => [
      mul a 14 ^^^ mul b 11 ^^^ mul c 13 ^^^ mul d 9,
      mul a 9 ^^^ mul b 14 ^^^ mul c 11 ^^^ mul d 13,
      mul a 13 ^^^ mul b 9 ^^^ mul c 14 ^^^ mul d 11,
      mul a 11 ^^^ mul b 13 ^^^ mul c 9 ^^^ mul d 14]
  | bs => bs

def decryptRounds (block : Bytes) : List Bytes → Bytes
  | [] => block
  | [key] => xorBytes (restoreAll (unshiftRows block)) key
  | key :: keys =>
    let mixed := xorBytes (restoreAll (unshiftRows block)) key
    decryptRounds ((chunks 4 mixed).flatMap unmixColumn) keys

def decryptBlock (keys : List Bytes) (block : Bytes) : Bytes :=
  match keys.reverse with
  | [] => block
  | last :: keys => decryptRounds (xorBytes block last) keys

end PodProbe.Crypto.Aes

namespace PodProbe.Crypto

def aes (key : Bytes) : BlockCipher :=
  let keys := Aes.roundKeys key
  { blockSize := 16, decryptBlock := Aes.decryptBlock keys }

end PodProbe.Crypto
