import PodProbe.Bytes

/-!
This module contains the reading of the elements of the distinguished encoding rules: an identifier, a definite
length, and that many bytes of contents. A length need not be written as shortly as possible.
-/

namespace PodProbe.Der

structure Element where
  klass : Nat
  constructed : Bool
  number : Nat
  contents : Bytes
deriving DecidableEq, Repr

def readNumber (n : Nat) : Nat → Bytes → Option (Nat × Bytes)
  | 0, _ => none
  | _ + 1, [] => none
  | fuel + 1, b :: bs =>
    let n := n * 128 + b.toNat % 128
    if b < 0x80 then some (n % 1 <<< 32, bs) else readNumber n fuel bs

def readLength : Bytes → Option (Nat × Bytes)
  | [] => none
  | b :: bs =>
    if b < 0x80 then some (b.toNat, bs)
    else
      let count := b.toNat - 0x80
      if count = 0 ∨ count = 0x7f ∨ bs.length < count then none
      else
        let n := Bytes.toNat (bs.take count)
        if n < 1 <<< 64 then some (n, bs.drop count) else none

def readHeader : Bytes → Option (Element × Nat × Bytes)
  | [] => none
  | b :: bs => do
    let low := b.toNat % 32
    let (number, bs) ← if low = 31 then readNumber 0 5 bs else some (low, bs)
    let (length, bs) ← readLength bs
    return (⟨b.toNat / 64, b.toNat / 32 % 2 = 1, number, []⟩, length, bs)

def readElement (bs : Bytes) : Option (Element × Bytes) := do
  let (e, length, bs) ← readHeader bs
  if bs.length < length then none
  else return ({ e with contents := bs.take length }, bs.drop length)

def readConstructed (number : Nat) (bs : Bytes) : Option (Bytes × Bytes) := do
  let (e, rest) ← readElement bs
  if e.klass = 0 ∧ e.constructed ∧ e.number = number then return (e.contents, rest) else none

def readSequence : Bytes → Option (Bytes × Bytes) :=
  readConstructed 16

def readSet : Bytes → Option (Bytes × Bytes) :=
  readConstructed 17

def arcs (n : Nat) (open? : Bool) : Bytes → List Nat
  | [] => if open? then [n] else []
  | b :: bs =>
    let n := n * 128 + b.toNat % 128
    if b < 0x80 then n :: arcs 0 false bs else arcs n true bs

def identifierArcs : Bytes → List Nat
  | [] => []
  | [0] => [0]
  | b :: bs => b.toNat / 40 :: b.toNat % 40 :: arcs 0 false bs

def dotted (arcs : List Nat) : String :=
  ".".intercalate (arcs.map toString)

end PodProbe.Der
