import PodProbe.Bytes

/-!
This module contains the reading of base 64 with padding. Every group of four characters stands for up to three
bytes; a group that stands for fewer is padded, and has no bits set that would belong to a further byte. Padded groups
may stand anywhere, so that texts can be joined.
-/

namespace PodProbe.Text.Base64

def sextet? (c : Char) : Option Nat :=
  if 'A' ≤ c ∧ c ≤ 'Z' then some (c.toNat - 65)
  else if 'a' ≤ c ∧ c ≤ 'z' then some (c.toNat - 71)
  else if '0' ≤ c ∧ c ≤ '9' then some (c.toNat + 4)
  else if c = '+' then some 62
  else if c = '/' then some 63
  else none

def group? (a b c d : Char) : Option Bytes := do
  let w ← sextet? a
  let x ← sextet? b
  let first := UInt8.ofNat (4 * w + x / 16)
  if c = '=' ∧ d = '=' then if x % 16 = 0 then some [first] else none
  else
    let y ← sextet? c
    let second := UInt8.ofNat (16 * (x % 16) + y / 4)
    if d = '=' then if y % 4 = 0 then some [first, second] else none
    else
      let z ← sextet? d
      some [first, second, UInt8.ofNat (64 * (y % 4) + z)]

def decode? : List Char → Option Bytes
  | [] => some []
  | a :: b :: c :: d :: cs => do
    let bs ← group? a b c d
    return bs ++ (← decode? cs)
  | _ => none

end PodProbe.Text.Base64
