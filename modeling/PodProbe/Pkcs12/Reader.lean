import PodProbe.Bytes

/-!
This module contains the reading of the elements that a keystore is made of. An element is read for its tag; whether it
should hold other elements is checked only after its length. Every reader leaves the bytes after what it has read.
-/

namespace PodProbe.Pkcs12

inductive Fault where
  | eof
  | extra
  | invalid
  | overflow
deriving DecidableEq, Repr

def Fault.name : Fault → String
  | eof => "Eof"
  | extra => "Extra"
  | invalid => "Invalid"
  | overflow => "IntegerOverflow"

def Fault.message (f : Fault) : String :=
  "ASN1Error \x7b kind: " ++ f.name ++ " \x7d"

structure Tag where
  klass : Nat := 0
  number : Nat
deriving DecidableEq, Repr

namespace Tag

def integer : Tag := { number := 2 }

def octetString : Tag := { number := 4 }

def null : Tag := { number := 5 }

def identifier : Tag := { number := 6 }

def sequence : Tag := { number := 16 }

def set : Tag := { number := 17 }

def asciiString : Tag := { number := 22 }

def wideString : Tag := { number := 30 }

def context (n : Nat) : Tag := { klass := 2, number := n }

end Tag

abbrev Result (α : Type) := Except Fault α

def readNumber (n : Nat) : Bytes → Result (Nat × Bytes)
  | [] => .error .eof
  | b :: bs =>
    if 1 <<< 64 ≤ n * 128 then .error .overflow
    else
      let n := n * 128 + b.toNat % 128
      if 0x80 ≤ b then readNumber n bs else if n < 31 then .error .invalid else .ok (n, bs)

def readTag : Bytes → Result ((Tag × Bool) × Bytes)
  | [] => .error .eof
  | b :: bs =>
    let klass := b.toNat / 64
    let constructed := b.toNat / 32 % 2 == 1
    if b.toNat % 32 = 31 then do
      let (number, bs) ← readNumber 0 bs
      return (({ klass, number }, constructed), bs)
    else .ok (({ klass, number := b.toNat % 32 }, constructed), bs)

def readLengthBytes (n : Nat) : Nat → Bytes → Result (Nat × Bytes)
  | 0, bs => .ok (n, bs)
  | count + 1, bs =>
    if 1 <<< 64 ≤ n * 256 then .error .eof
    else
      match bs with
      | [] => .error .eof
      | b :: bs => readLengthBytes (n * 256 + b.toNat) count bs

def readLength : Bytes → Result (Nat × Bytes)
  | [] => .error .eof
  | b :: bs =>
    if b < 0x80 then .ok (b.toNat, bs)
    else if b = 0x80 ∨ b = 0xff then .error .invalid
    else do
      let (n, bs) ← readLengthBytes 0 (b.toNat - 0x80) bs
      if n < 0x80 then .error .invalid else return (n, bs)

def readContents (bs : Bytes) : Result (Bytes × Bytes) := do
  let (n, bs) ← readLength bs
  if bs.length < n then .error .eof else return (bs.take n, bs.drop n)

def readElement (tag : Tag) (bs : Bytes) : Result ((Bool × Bytes) × Bytes) := do
  let ((t, constructed), bs) ← readTag bs
  if t = tag then
    let (contents, bs) ← readContents bs
    return ((constructed, contents), bs)
  else .error .invalid

/-- Fails unless everything was read. -/
def finish {α : Type} : α × Bytes → Except Fault α
  | (x, []) => .ok x
  | _ => .error .extra

def readAll {α : Type} (read : Bytes → Result (α × Bytes)) (bs : Bytes) : Except Fault α := do
  finish (← read bs)

/-- Reads an element that holds no others. -/
def readPrimitive {α : Type} (tag : Tag) (read : Bytes → Except Fault α) (bs : Bytes) : Result (α × Bytes) := do
  let ((constructed, contents), bs) ← readElement tag bs
  if constructed then .error .invalid else return (← read contents, bs)

def readTagged {α : Type} (tag : Tag) (read : Bytes → Result (α × Bytes)) (bs : Bytes) : Result (α × Bytes) := do
  let ((constructed, contents), bs) ← readElement tag bs
  if constructed then return (← readAll read contents, bs) else .error .invalid

def readSequence {α : Type} (read : Bytes → Result (α × Bytes)) : Bytes → Result (α × Bytes) :=
  readTagged .sequence read

def readOctets : Bytes → Result (Bytes × Bytes) :=
  readPrimitive .octetString .ok

def readNull : Bytes → Result (Unit × Bytes) :=
  readPrimitive .null fun bs => if bs.isEmpty then .ok () else .error .invalid

def skipElement (bs : Bytes) : Result (Unit × Bytes) := do
  let (_, bs) ← readTag bs
  let (_, bs) ← readContents bs
  return ((), bs)

/-! ### Numbers and identifiers -/

def natural : Bytes → Except Fault Nat
  | [] => .error .invalid
  | [b] => if b < 0x80 then .ok b.toNat else .error .overflow
  | b :: c :: bs =>
    if 0x80 ≤ b then .error .overflow
    else if b = 0 ∧ c < 0x80 then .error .invalid
    else
      let n := Bytes.toNat (b :: c :: bs)
      if n < 1 <<< 64 then .ok n else .error .overflow

def readNatural (bits : Nat) (bs : Bytes) : Result (Nat × Bytes) := do
  let (n, bs) ← readPrimitive .integer natural bs
  if n < 1 <<< bits then return (n, bs) else .error .overflow

/-- The parts of an identifier as they are written, where `n` is the beginning of the next one. -/
def subidentifiers (n : Nat) (isOpen : Bool) : Bytes → Except Fault (List Nat)
  | [] => if isOpen then .error .invalid else .ok []
  | b :: bs =>
    if b = 0x80 ∧ !isOpen then .error .invalid
    else if 1 <<< 64 ≤ n * 128 then .error .overflow
    else
      let n := n * 128 + b.toNat % 128
      if b < 0x80 then do return n :: (← subidentifiers 0 false bs) else subidentifiers n true bs

def identifierArcs (bs : Bytes) : Except Fault (List Nat) :=
  if bs.getLast?.all (0x80 ≤ ·) then .error .invalid
  else do
    match ← subidentifiers 0 false bs with
    | [] => .error .invalid
    | n :: ns =>
      let first := min (n / 40) 2
      return first :: (n - 40 * first) :: ns

def readIdentifier : Bytes → Result (List Nat × Bytes) :=
  readPrimitive .identifier identifierArcs

/-! ### Elements that may be missing -/

abbrev Optional (α : Type) := Bytes → Result (Option α × Bytes)

def ifTagged {α : Type} (tag : Tag) (read : Bytes → Result (α × Bytes)) : Optional α :=
  fun bs =>
    match readTag bs with
    | .error _ => .ok (none, bs)
    | .ok ((t, _), _) =>
      if t = tag then do
        let (x, bs) ← read bs
        return (some x, bs)
      else .ok (none, bs)

/-- Skips an element unless there is none. -/
def ifAny : Optional Unit :=
  fun bs =>
    if bs.isEmpty then .ok (none, bs)
    else do
      let (_, bs) ← skipElement bs
      return (some (), bs)

def readMany {α : Type} (read : Optional α) : Nat → Bytes → Result (List (α × Bytes) × Bytes)
  | 0, bs => .ok ([], bs)
  | fuel + 1, bs => do
    match ← read bs with
    | (none, bs) => return ([], bs)
    | (some x, rest) =>
      let (xs, rest') ← readMany read fuel rest
      return ((x, bs.take (bs.length - rest.length)) :: xs, rest')

def readList {α : Type} (read : Optional α) : Bytes → Result (List α × Bytes) :=
  readSequence fun bs => do
    let (xs, bs) ← readMany read bs.length bs
    return (xs.map Prod.fst, bs)

def ordered : Bytes → Bytes → Bool
  | [], _ => true
  | _ :: _, [] => false
  | a :: as, b :: bs => a < b || (a == b && ordered as bs)

def isSorted : List Bytes → Bool
  | a :: b :: rest => ordered a b && isSorted (b :: rest)
  | _ => true

def readSet {α : Type} (read : Optional α) : Bytes → Result (List α × Bytes) :=
  readTagged .set fun bs => do
    let (xs, bs) ← readMany read bs.length bs
    if isSorted (xs.map Prod.snd) then return (xs.map Prod.fst, bs) else .error .invalid

end PodProbe.Pkcs12
