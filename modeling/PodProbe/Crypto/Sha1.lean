import PodProbe.Crypto.Hash

/-!
This module contains the hash function SHA-1.
-/

namespace PodProbe.Crypto.Sha1

structure State where
  a : UInt32
  b : UInt32
  c : UInt32
  d : UInt32
  e : UInt32

def initial : State :=
  ⟨0x67452301, 0xefcdab89, 0x98badcfe, 0x10325476, 0xc3d2e1f0⟩

def rotate (x : UInt32) (n : UInt32) : UInt32 :=
  (x <<< n) ||| (x >>> (32 - n))

def schedule (block : Array UInt32) : Array UInt32 :=
  (List.range 64).foldl (fun w i =>
    let word (j : Nat) := w.getD (i + j) 0
    w.push (rotate (word 13 ^^^ word 8 ^^^ word 2 ^^^ word 0) 1)) block

def round (s : State) (t : Nat) (w : UInt32) : State :=
  let (f, k) :=
    if t < 20 then ((s.b &&& s.c) ||| (~~~s.b &&& s.d), 0x5a827999)
    else if t < 40 then (s.b ^^^ s.c ^^^ s.d, 0x6ed9eba1)
    else if t < 60 then ((s.b &&& s.c) ||| (s.b &&& s.d) ||| (s.c &&& s.d), 0x8f1bbcdc)
    else (s.b ^^^ s.c ^^^ s.d, 0xca62c1d6)
  ⟨rotate s.a 5 + f + s.e + k + w, s.a, rotate s.b 30, s.c, s.d⟩

def compress (s : State) (block : Bytes) : State :=
  let words := (chunks 4 block).map fun bs => UInt32.ofNat (Bytes.toNat bs)
  let w := schedule words.toArray
  let t := (w.toList.zipIdx).foldl (fun t (x, i) => round t i x) s
  ⟨s.a + t.a, s.b + t.b, s.c + t.c, s.d + t.d, s.e + t.e⟩

def digest (bs : Bytes) : Bytes :=
  let s := (chunks 64 (padMessage 64 8 bs)).foldl compress initial
  [s.a, s.b, s.c, s.d, s.e].flatMap fun x => Bytes.ofNat 4 x.toNat

end PodProbe.Crypto.Sha1

namespace PodProbe.Crypto

def sha1 : Hash where
  blockSize := 64
  digestSize := 20
  digest := Sha1.digest

end PodProbe.Crypto
