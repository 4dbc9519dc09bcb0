import PodProbe.Der.Fault

/-!
This module contains the reading of messages in the distinguished encoding rules that accepts nothing but their one
proper form, and says where a message departs from it.
-/

namespace PodProbe.Der

structure Cursor where
  rest : Bytes
  offset : Nat := 0
  start : Nat := 0
  stop : Nat

def Cursor.ofBytes (bs : Bytes) : Cursor where
  rest := bs
  stop := bs.length

def Cursor.position (c : Cursor) : Nat :=
  c.offset - c.start

def Cursor.remaining (c : Cursor) : Nat :=
  c.stop - c.offset

structure Item where
  tag : Tag
  contents : Bytes
deriving DecidableEq, Repr

structure Algorithm where
  identifier : List Nat
  parameters : Option Item
deriving DecidableEq, Repr

/-- Reading moves a cursor, also where it fails. -/
abbrev Reading (α : Type) := Cursor → Except Fault α × Cursor

namespace Reading

def pure {α : Type} (x : α) : Reading α :=
  fun c => (.ok x, c)

def bind {α β : Type} (r : Reading α) (f : α → Reading β) : Reading β :=
  fun c =>
    match r c with
    | (.ok x, c) => f x c
    | (.error e, c) => (.error e, c)

instance : Monad Reading where
  pure := pure
  bind := bind

/-- Fails without telling where. -/
def refuse {α : Type} (p : Problem) : Reading α :=
  fun c => (.error { problem := p }, c)

def refuseHere {α : Type} (p : Problem) : Reading α :=
  fun c => (.error { problem := p, position := some c.offset }, c)

def position : Reading Nat :=
  fun c => (.ok c.position, c)

def lift {α : Type} : Except Fault α → Reading α
  | .ok x => pure x
  | .error e => fun c => (.error e, c)

def part {α : Type} (r : Reading α) : Reading α :=
  fun c =>
    match r c with
    | (.ok x, c) => (.ok x, c)
    | (.error e, c) => (.error (e.within c.position), c)

def take (count : Nat) : Reading Bytes :=
  fun c =>
    if c.remaining < count then refuseHere (.incomplete (c.position + count) (c.stop - c.start)) c
    else (.ok (c.rest.take count), { c with rest := c.rest.drop count, offset := c.offset + count })

def byte : Reading UInt8 := do
  match ← take 1 with
  | [b] => pure b
  | _ => refuse .overflow

/-- Fails unless the contents of the element have been read to their end. -/
def finish : Reading Unit :=
  fun c =>
    if 0 < c.remaining then
      (.error { problem := .trailing c.position c.remaining, position := some c.position }, c)
    else (.ok (), c)

def within {α : Type} (length : Nat) (r : Reading α) : Reading α :=
  fun c =>
    if c.remaining < length then refuseHere (.incomplete (c.offset + length) (c.offset + c.remaining)) c
    else
      let whole : Reading α := do
        let x ← r
        finish
        return x
      let (x, inner) := whole { c with start := c.offset, stop := c.offset + length }
      (x, { c with rest := inner.rest, offset := inner.offset })

def run {α : Type} (r : Reading α) (bs : Bytes) : Except Fault α :=
  let whole : Reading α := do
    let x ← r
    finish
    return x
  (whole (Cursor.ofBytes bs)).1

/-! ### Elements -/

def tagOf (b : UInt8) : Except Fault Tag :=
  if b &&& 0x1f = 0x1f then .error { problem := .tagNumber }
  else if 0x40 ≤ b ∨ (Tag.universalNames.lookup b).isSome then .ok ⟨b⟩
  else .error { problem := .unknownTag b }

def tag : Reading Tag := do
  lift (tagOf (← byte))

def longest : Nat := 1 <<< 28 - 1

def lengthSize (n : Nat) : Nat :=
  if n < 0x80 then 0 else if n < 0x100 then 1 else if n < 0x10000 then 2 else if n < 0x1000000 then 3 else 4

def length (t : Tag) : Reading Nat := do
  let b ← byte
  if b < 0x80 then pure b.toNat
  else if b = 0x80 then refuse .indefiniteLength
  else if 0x84 < b then refuse (.wrongLength t)
  else do
    let size := b.toNat - 0x80
    let n := Bytes.toNat (← bytes size)
    if longest < n then refuse .overflow
    else if lengthSize n = size then pure n
    else refuse (.wrongLength t)
where
  bytes : Nat → Reading Bytes
    | 0 => pure []
    | n + 1 => do
      let b ← byte
      return b :: (← bytes n)

def header : Reading (Tag × Nat) := do
  let t ← tag
  return (t, ← length t)

def expect (wanted : Tag) : Reading Nat := do
  let (t, n) ← header
  if t = wanted then pure n else refuse (.unexpectedTag (some wanted) t)

def sequence {α : Type} (r : Reading α) : Reading α := do
  within (← expect .sequence) r

def octets : Reading Bytes := do
  take (← expect .octetString)

def item : Reading Item := do
  let (tag, n) ← header
  return { tag, contents := ← take n }

def optional {α : Type} (wanted : Tag → Bool) (r : Reading α) : Reading (Option α) :=
  fun c =>
    if c.remaining = 0 then (.ok none, c)
    else
      match c.rest with
      | [] => (.ok none, c)
      | b :: _ =>
        match tagOf b with
        | .error e => (.error e, c)
        | .ok t =>
          if wanted t then
            match r c with
            | (.ok x, c) => (.ok (some x), c)
            | (.error e, c) => (.error e, c)
          else (.ok none, c)

/-! ### Numbers and identifiers -/

/-- The contents of a number that is not negative, without the zero that shows its sign. -/
def unsigned : Bytes → Except Fault Bytes
  | [] => .error { problem := .notCanonical .integer }
  | [0] => .ok [0]
  | 0 :: b :: bs => if b < 0x80 then .error { problem := .notCanonical .integer } else .ok (b :: bs)
  | b :: bs => if b < 0x80 then .ok (b :: bs) else .error { problem := .wrongValue .integer }

def natural (size : Nat) : Reading Nat := do
  let n ← expect .integer
  if size + 1 < n then refuse (.notCanonical .integer)
  else do
    let bs ← lift (unsigned (← take n))
    if size < bs.length then refuse (.wrongLength .integer) else pure (Bytes.toNat bs)

def longestIdentifier : Nat := 39

def wellFormedArcs (size : Nat) : Bytes → Bool
  | [] => size = 0
  | b :: bs =>
    if 4 ≤ size && b &&& 0xf0 != 0 then false
    else if b < 0x80 then wellFormedArcs 0 bs
    else wellFormedArcs (size + 1) bs

def isIdentifier : Bytes → Bool
  | [] => false
  | b :: bs => 2 ≤ bs.length && b.toNat < 120 && wellFormedArcs 0 bs

def identifier : Reading (List Nat) := do
  let n ← expect .objectIdentifier
  if longestIdentifier < n then refuse (.wrongLength .objectIdentifier)
  else do
    let bs ← take n
    if isIdentifier bs then pure (identifierArcs bs) else refuse .malformedIdentifier

def algorithm : Reading Algorithm :=
  sequence do
    let identifier ← part identifier
    return { identifier, parameters := ← part (optional (fun _ => true) item) }

end Reading

end PodProbe.Der
