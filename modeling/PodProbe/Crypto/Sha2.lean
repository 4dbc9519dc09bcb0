import PodProbe.Crypto.Hash
import PodProbe.Crypto.Roots

/-!
This module contains the hash functions of the family SHA-2, which differ in the width of their words, in the
constants, and in the length of the digest.
-/

namespace PodProbe.Crypto.Sha2

structure Variant (W : Type) where
  wordSize : Nat
  ofNat : Nat → W
  toNat : W → Nat
  constants : List W
  sum0 : W → W
  sum1 : W → W
  mix0 : W → W
  mix1 : W → W

structure State (W : Type) where
  a : W
  b : W
  c : W
  d : W
  e : W
  f : W
  g : W
  h : W

section

variable {W : Type} [Inhabited W] [Add W] [XorOp W] [AndOp W] [Complement W]

@[specialize]
def schedule (v : Variant W) (block : Array W) : Array W :=
  (List.range (v.constants.length - 16)).foldl (fun w i =>
    let word (j : Nat) := w.getD (i + j) default
    w.push (v.mix1 (word 14) + word 9 + v.mix0 (word 1) + word 0)) block

@[specialize]
def round (v : Variant W) (s : State W) (k w : W) : State W :=
  let choice := (s.e &&& s.f) ^^^ (~~~s.e &&& s.g)
  let majority := (s.a &&& s.b) ^^^ (s.a &&& s.c) ^^^ (s.b &&& s.c)
  let t := s.h + v.sum1 s.e + choice + k + w
  ⟨t + v.sum0 s.a + majority, s.a, s.b, s.c, s.d + t, s.e, s.f, s.g⟩

@[specialize]
def compress (v : Variant W) (s : State W) (block : Bytes) : State W :=
  let words := (chunks v.wordSize block).map fun bs => v.ofNat (Bytes.toNat bs)
  let w := (schedule v words.toArray).toList
  let t := (v.constants.zip w).foldl (fun t (k, x) => round v t k x) s
  ⟨s.a + t.a, s.b + t.b, s.c + t.c, s.d + t.d, s.e + t.e, s.f + t.f, s.g + t.g, s.h + t.h⟩

@[specialize]
def digest (v : Variant W) (initial : State W) (length : Nat) (bs : Bytes) : Bytes :=
  let blockSize := 16 * v.wordSize
  let s := (chunks blockSize (padMessage blockSize (2 * v.wordSize) bs)).foldl (compress v) initial
  ([s.a, s.b, s.c, s.d, s.e, s.f, s.g, s.h].flatMap fun x => Bytes.ofNat v.wordSize (v.toNat x)).take length

def State.ofNats (v : Variant W) : List Nat → State W
  | [a, b, c, d, e, f, g, h] =>
    ⟨v.ofNat a, v.ofNat b, v.ofNat c, v.ofNat d, v.ofNat e, v.ofNat f, v.ofNat g, v.ofNat h⟩
  | _ => ⟨default, default, default, default, default, default, default, default⟩

end

def rotate32 (x n : UInt32) : UInt32 :=
  (x >>> n) ||| (x <<< (32 - n))

def rotate64 (x n : UInt64) : UInt64 :=
  (x >>> n) ||| (x <<< (64 - n))

def variant32 : Variant UInt32 where
  wordSize := 4
  ofNat := UInt32.ofNat
  toNat := UInt32.toNat
  constants := (primes.take 64).map fun p => UInt32.ofNat (rootFraction 3 32 p)
  sum0 x := rotate32 x 2 ^^^ rotate32 x 13 ^^^ rotate32 x 22
  sum1 x := rotate32 x 6 ^^^ rotate32 x 11 ^^^ rotate32 x 25
  mix0 x := rotate32 x 7 ^^^ rotate32 x 18 ^^^ (x >>> 3)
  mix1 x := rotate32 x 17 ^^^ rotate32 x 19 ^^^ (x >>> 10)

def variant64 : Variant UInt64 where
  wordSize := 8
  ofNat := UInt64.ofNat
  toNat := UInt64.toNat
  constants := primes.map fun p => UInt64.ofNat (rootFraction 3 64 p)
  sum0 x := rotate64 x 28 ^^^ rotate64 x 34 ^^^ rotate64 x 39
  sum1 x := rotate64 x 14 ^^^ rotate64 x 18 ^^^ rotate64 x 41
  mix0 x := rotate64 x 1 ^^^ rotate64 x 8 ^^^ (x >>> 7)
  mix1 x := rotate64 x 19 ^^^ rotate64 x 61 ^^^ (x >>> 6)

def initial256 : State UInt32 :=
  State.ofNats variant32 ((primes.take 8).map (rootFraction 2 32))

def initial224 : State UInt32 :=
  State.ofNats variant32 (((primes.drop 8).take 8).map fun p => rootFraction 2 64 p % 1 <<< 32)

def initial512 : State UInt64 :=
  State.ofNats variant64 ((primes.take 8).map (rootFraction 2 64))

def initial384 : State UInt64 :=
  State.ofNats variant64 (((primes.drop 8).take 8).map (rootFraction 2 64))

end PodProbe.Crypto.Sha2

namespace PodProbe.Crypto

open Sha2

def sha224 : Hash where
  blockSize := 64
  digestSize := 28
  digest := digest variant32 initial224 28

def sha256 : Hash where
  blockSize := 64
  digestSize := 32
  digest := digest variant32 initial256 32

def sha384 : Hash where
  blockSize := 128
  digestSize := 48
  digest := digest variant64 initial384 48

def sha512 : Hash where
  blockSize := 128
  digestSize := 64
  digest := digest variant64 initial512 64

end PodProbe.Crypto
