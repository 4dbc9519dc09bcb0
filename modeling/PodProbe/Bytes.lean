/-!
This module contains the byte strings of the library, with their hexadecimal text and the UTF-8 encoding.
-/

namespace PodProbe

abbrev Bytes := List UInt8

namespace Bytes

def hexDigit (n : Nat) : Char :=
  if n < 10 then Char.ofNat (48 + n) else Char.ofNat (87 + n)

def toHex (bs : Bytes) : String :=
  String.ofList (bs.flatMap fun b => [hexDigit (b.toNat / 16), hexDigit (b.toNat % 16)])

def hexValue? (c : Char) : Option Nat :=
  if '0' ≤ c ∧ c ≤ '9' then some (c.toNat - 48)
  else if 'a' ≤ c ∧ c ≤ 'f' then some (c.toNat - 87)
  else if 'A' ≤ c ∧ c ≤ 'F' then some (c.toNat - 55)
  else none

def ofHexChars? : List Char → Option Bytes
  | [] => some []
  | [_] => none
  | a :: b :: cs => do
    let hi ← hexValue? a
    let lo ← hexValue? b
    let rest ← ofHexChars? cs
    return UInt8.ofNat (16 * hi + lo) :: rest

def ofHex? (s : String) : Option Bytes :=
  ofHexChars? s.toList

def ofChars (cs : List Char) : Bytes :=
  cs.flatMap String.utf8EncodeChar

def ofString (s : String) : Bytes :=
  ofChars s.toList

def continuation? (b : UInt8) : Option Nat :=
  if b.toNat / 64 = 2 then some (b.toNat % 64) else none

/-- The code point with this number, unless it is a surrogate or too large. -/
def char? (n : Nat) : Option Char :=
  if h : n.isValidChar then some (Char.ofNatAux n h) else none

/-- Reads UTF-8 strictly: no overlong forms, no surrogates, nothing above the last code point. -/
def toChars? : Bytes → Option (List Char)
  | [] => some []
  | a :: bs =>
    if a < 0x80 then do
      let c ← char? a.toNat
      return c :: (← toChars? bs)
    else if a < 0xC2 then none
    else if a < 0xE0 then
      match bs with
      | b :: bs => do
        let x ← continuation? b
        let c ← char? ((a.toNat - 0xC0) * 64 + x)
        return c :: (← toChars? bs)
      | _ => none
    else if a < 0xF0 then
      match bs with
      | b :: d :: bs => do
        let x ← continuation? b
        let y ← continuation? d
        let n := ((a.toNat - 0xE0) * 64 + x) * 64 + y
        if n < 0x800 then none
        else do
          let c ← char? n
          return c :: (← toChars? bs)
      | _ => none
    else if a < 0xF5 then
      match bs with
      | b :: d :: e :: bs => do
        let x ← continuation? b
        let y ← continuation? d
        let z ← continuation? e
        let n := (((a.toNat - 0xF0) * 64 + x) * 64 + y) * 64 + z
        if n < 0x10000 then none
        else do
          let c ← char? n
          return c :: (← toChars? bs)
      | _ => none
    else none

def toString? (bs : Bytes) : Option String :=
  (toChars? bs).map String.ofList

def toNat (bs : Bytes) : Nat :=
  bs.foldl (fun n b => 256 * n + b.toNat) 0

def ofNat (count n : Nat) : Bytes :=
  (List.range count).reverse.map fun i => UInt8.ofNat (n >>> (8 * i))

end Bytes

end PodProbe
