import PodProbe.Crypto.BlockCipher

/-!
This module contains the block cipher DES and its threefold use. Its steps move single bits, which are counted from
one and from the highest on.
-/

namespace PodProbe.Crypto.Des

def select (width : UInt64) (positions : List UInt64) (x : UInt64) : UInt64 :=
  positions.foldl (fun r i => (r <<< 1) ||| ((x >>> (width - i)) &&& 1)) 0

def entry : List UInt64 := [
  58, 50, 42, 34, 26, 18, 10, 2, 60, 52, 44, 36, 28, 20, 12, 4,
  62, 54, 46, 38, 30, 22, 14, 6, 64, 56, 48, 40, 32, 24, 16, 8,
  57, 49, 41, 33, 25, 17, 9, 1, 59, 51, 43, 35, 27, 19, 11, 3,
  61, 53, 45, 37, 29, 21, 13, 5, 63, 55, 47, 39, 31, 23, 15, 7]

def exit : List UInt64 :=
  (List.range 64).map fun i => UInt64.ofNat (entry.findIdx (· == UInt64.ofNat (i + 1)) + 1)

def expansion : List UInt64 := [
  32, 1, 2, 3, 4, 5, 4, 5, 6, 7, 8, 9, 8, 9, 10, 11,
  12, 13, 12, 13, 14, 15, 16, 17, 16, 17, 18, 19, 20, 21, 20, 21,
  22, 23, 24, 25, 24, 25, 26, 27, 28, 29, 28, 29, 30, 31, 32, 1]

def diffusion : List UInt64 := [
  16, 7, 20, 21, 29, 12, 28, 17, 1, 15, 23, 26, 5, 18, 31, 10,
  2, 8, 24, 14, 32, 27, 3, 9, 19, 13, 30, 6, 22, 11, 4, 25]

def keyEntry : List UInt64 := [
  57, 49, 41, 33, 25, 17, 9, 1, 58, 50, 42, 34, 26, 18,
  10, 2, 59, 51, 43, 35, 27, 19, 11, 3, 60, 52, 44, 36,
  63, 55, 47, 39, 31, 23, 15, 7, 62, 54, 46, 38, 30, 22,
  14, 6, 61, 53, 45, 37, 29, 21, 13, 5, 28, 20, 12, 4]

def keyChoice : List UInt64 := [
  14, 17, 11, 24, 1, 5, 3, 28, 15, 6, 21, 10, 23, 19, 12, 4,
  26, 8, 16, 7, 27, 20, 13, 2, 41, 52, 31, 37, 47, 55, 30, 40,
  51, 45, 33, 48, 44, 49, 39, 56, 34, 53, 46, 42, 50, 36, 29, 32]

def turns : List UInt64 := [1, 1, 2, 2, 2, 2, 2, 2, 1, 2, 2, 2, 2, 2, 2, 1]

def boxes : List (Array UInt64) := [
  #[14, 4, 13, 1, 2, 15, 11, 8, 3, 10, 6, 12, 5, 9, 0, 7,
    0, 15, 7, 4, 14, 2, 13, 1, 10, 6, 12, 11, 9, 5, 3, 8,
    4, 1, 14, 8, 13, 6, 2, 11, 15, 12, 9, 7, 3, 10, 5, 0,
    15, 12, 8, 2, 4, 9, 1, 7, 5, 11, 3, 14, 10, 0, 6, 13],
  #[15, 1, 8, 14, 6, 11, 3, 4, 9, 7, 2, 13, 12, 0, 5, 10,
    3, 13, 4, 7, 15, 2, 8, 14, 12, 0, 1, 10, 6, 9, 11, 5,
    0, 14, 7, 11, 10, 4, 13, 1, 5, 8, 12, 6, 9, 3, 2, 15,
    13, 8, 10, 1, 3, 15, 4, 2, 11, 6, 7, 12, 0, 5, 14, 9],
  #[10, 0, 9, 14, 6, 3, 15, 5, 1, 13, 12, 7, 11, 4, 2, 8,
    13, 7, 0, 9, 3, 4, 6, 10, 2, 8, 5, 14, 12, 11, 15, 1,
    13, 6, 4, 9, 8, 15, 3, 0, 11, 1, 2, 12, 5, 10, 14, 7,
    1, 10, 13, 0, 6, 9, 8, 7, 4, 15, 14, 3, 11, 5, 2, 12],
  #[7, 13, 14, 3, 0, 6, 9, 10, 1, 2, 8, 5, 11, 12, 4, 15,
    13, 8, 11, 5, 6, 15, 0, 3, 4, 7, 2, 12, 1, 10, 14, 9,
    10, 6, 9, 0, 12, 11, 7, 13, 15, 1, 3, 14, 5, 2, 8, 4,
    3, 15, 0, 6, 10, 1, 13, 8, 9, 4, 5, 11, 12, 7, 2, 14],
  #[2, 12, 4, 1, 7, 10, 11, 6, 8, 5, 3, 15, 13, 0, 14, 9,
    14, 11, 2, 12, 4, 7, 13, 1, 5, 0, 15, 10, 3, 9, 8, 6,
    4, 2, 1, 11, 10, 13, 7, 8, 15, 9, 12, 5, 6, 3, 0, 14,
    11, 8, 12, 7, 1, 14, 2, 13, 6, 15, 0, 9, 10, 4, 5, 3],
  #[12, 1, 10, 15, 9, 2, 6, 8, 0, 13, 3, 4, 14, 7, 5, 11,
    10, 15, 4, 2, 7, 12, 9, 5, 6, 1, 13, 14, 0, 11, 3, 8,
    9, 14, 15, 5, 2, 8, 12, 3, 7, 0, 4, 10, 1, 13, 11, 6,
    4, 3, 2, 12, 9, 5, 15, 10, 11, 14, 1, 7, 6, 0, 8, 13],
  #[4, 11, 2, 14, 15, 0, 8, 13, 3, 12, 9, 7, 5, 10, 6, 1,
    13, 0, 11, 7, 4, 9, 1, 10, 14, 3, 5, 12, 2, 15, 8, 6,
    1, 4, 11, 13, 12, 3, 7, 14, 10, 15, 6, 8, 0, 5, 9, 2,
    6, 11, 13, 8, 1, 4, 10, 7, 9, 5, 0, 15, 14, 2, 3, 12],
  #[13, 2, 8, 4, 6, 15, 11, 1, 10, 9, 3, 14, 5, 0, 12, 7,
    1, 15, 13, 8, 10, 3, 7, 4, 12, 5, 6, 11, 0, 14, 9, 2,
    7, 11, 4, 1, 9, 12, 14, 2, 0, 6, 10, 13, 15, 3, 5, 8,
    2, 1, 14, 7, 4, 10, 8, 13, 15, 12, 9, 0, 3, 5, 6, 11]]

def turn (x n : UInt64) : UInt64 :=
  ((x <<< n) ||| (x >>> (28 - n))) &&& 0xfffffff

def roundKeys (key : UInt64) : List UInt64 :=
  let halves := select 64 keyEntry key
  go (halves >>> 28) (halves &&& 0xfffffff) turns
where
  go (c d : UInt64) : List UInt64 → List UInt64
    | [] => []
    | n :: ns =>
      let c := turn c n
      let d := turn d n
      select 56 keyChoice ((c <<< 28) ||| d) :: go c d ns

def box (b : Array UInt64) (x : UInt64) : UInt64 :=
  let row : UInt64 := ((x >>> 4) &&& 2) ||| (x &&& 1)
  let place : UInt64 := (x >>> 1) &&& 15
  b.getD (16 * row + place).toNat 0

def mix (half key : UInt64) : UInt64 :=
  let x := select 32 expansion half ^^^ key
  let (y, _) := boxes.foldl (fun ((y, shift) : UInt64 × UInt64) b =>
    ((y <<< 4) ||| box b ((x >>> shift) &&& 63), shift - 6)) (0, 42)
  select 32 diffusion y

def process (keys : List UInt64) (block : UInt64) : UInt64 :=
  let x := select 64 entry block
  let (left, right) := keys.foldl (fun ((left, right) : UInt64 × UInt64) k => (right, left ^^^ mix right k))
    (x >>> 32, x &&& 0xffffffff)
  select 64 exit ((right <<< 32) ||| left)

end PodProbe.Crypto.Des

namespace PodProbe.Crypto

/-- The threefold cipher under a key of 24 bytes, the middle part of which is used the other way round. -/
def tripleDes (key : Bytes) : BlockCipher :=
  let keys := (chunks 8 key).map fun k => Des.roundKeys (UInt64.ofNat (Bytes.toNat k))
  match keys with
  | [a, b, c] =>
    { blockSize := 8
      decryptBlock := fun block =>
        let x := UInt64.ofNat (Bytes.toNat block)
        Bytes.ofNat 8 (Des.process a.reverse (Des.process b (Des.process c.reverse x))).toNat }
  | _ => { blockSize := 8, decryptBlock := id }

end PodProbe.Crypto
