import PodProbe.Crypto.Des
import PodProbe.Crypto.Rc2
import PodProbe.Crypto.Sha1
import PodProbe.Pkcs12

/-!
This module contains what a password does to a keystore: it authenticates the contents, and decrypts them and the keys
in them.
-/

namespace PodProbe.Pkcs12

open Crypto (sha1 chunks)

def units (c : Char) : List Nat :=
  let n := c.toNat
  if n < 0x10000 then [n] else [0xd800 + (n - 0x10000) / 0x400, 0xdc00 + (n - 0x10000) % 0x400]

def passwordBytes (s : String) : Bytes :=
  (s.toList.flatMap units ++ [0]).flatMap (Bytes.ofNat 2)

/-! ### Keys -/

inductive Purpose where
  | key
  | start
  | mac
deriving DecidableEq, Repr

def Purpose.number : Purpose → UInt8
  | key => 1
  | start => 2
  | mac => 3

def pieceSize : Nat := 64

def cycle (bs : Bytes) (length : Nat) : Bytes :=
  if bs.isEmpty then [] else ((List.replicate (length / bs.length + 1) bs).flatten).take length

def fillPieces (bs : Bytes) : Bytes :=
  cycle bs (pieceSize * ((bs.length + pieceSize - 1) / pieceSize))

def hashTimes : Nat → Bytes → Bytes
  | 0, bs => bs
  | n + 1, bs => hashTimes n (sha1.digest bs)

def addPiece (n : Nat) (piece : Bytes) : Bytes :=
  Bytes.ofNat piece.length (Bytes.toNat piece + n + 1)

/-- Hashes pieces to one block after the other, where each block goes into the pieces for the next one. -/
def deriveBlocks (purpose : Purpose) (iterations : Nat) : Nat → List Bytes → Bytes
  | 0, _ => []
  | count + 1, pieces =>
    let block := hashTimes iterations (List.replicate pieceSize purpose.number ++ pieces.flatten)
    let n := Bytes.toNat (cycle block pieceSize)
    block ++ deriveBlocks purpose iterations count (pieces.map (addPiece n))

def derive (purpose : Purpose) (password salt : Bytes) (iterations length : Nat) : Bytes :=
  let pieces := chunks pieceSize (fillPieces salt ++ fillPieces password)
  let blocks := (length + sha1.digestSize - 1) / sha1.digestSize
  (deriveBlocks purpose iterations blocks pieces).take length

/-! ### Contents -/

def Sealed.decrypt? (s : Sealed) (password : Bytes) : Option Bytes :=
  match s.scheme with
  | .rc2 salt iterations =>
    let start := derive .start password salt iterations 8
    (Crypto.rc2 (derive .key password salt iterations 5)).decrypt? start s.bytes
  | .tripleDes salt iterations =>
    let start := derive .start password salt iterations 8
    (Crypto.tripleDes (derive .key password salt iterations 24)).decrypt? start s.bytes
  | .other => none

def Content.bytes? (c : Content) (password : Bytes) : Option Bytes :=
  match c with
  | .plain bytes => some bytes
  | .encrypted s => s.decrypt? password
  | .other => none

def Keystore.accepts (k : Keystore) (password : Bytes) : Bool :=
  match k.mac with
  | none => true
  | some m =>
    match k.content.bytes? password with
    | some bytes => sha1.hmac (derive .mac password m.salt m.iterations sha1.digestSize) bytes == m.code
    | none => false

def openContent (password : Bytes) (c : Content) : Except Fault Bytes :=
  match c.bytes? password with
  | some bytes => .ok bytes
  | none => .error .invalid

def Keystore.bags (k : Keystore) (password : Bytes) : Except Fault (List Bag) := do
  let contents ← contentsOfBytes (← openContent password k.content)
  let bags ← contents.mapM fun c => do bagsOfBytes (← openContent password c)
  return bags.flatten

def certificates (bags : List Bag) : List Bytes :=
  bags.filterMap fun
    | .certificate der => some der
    | _ => none

def key? (password : Bytes) (bags : List Bag) : Option Bytes :=
  bags.findSome? fun
    | .key s => s.decrypt? password
    | _ => none

end PodProbe.Pkcs12
