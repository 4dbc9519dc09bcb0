import PodProbe.Bytes

/-!
This module contains the numeric addresses that may stand for a host, of 32 and of 128 bits.
-/

namespace PodProbe.Url

/-! ### Addresses of 32 bits -/

def readDigits? (base : Nat) (cs : List Char) : Option Nat :=
  cs.foldl (fun n c => do
    let d ← Bytes.hexValue? c
    if d < base then return base * (← n) + d else none) (some 0)

def readPart? (cs : List Char) : Option Nat :=
  match cs with
  | [] => none
  | '0' :: 'x' :: ds => readDigits? 16 ds
  | '0' :: 'X' :: ds => readDigits? 16 ds
  | '0' :: d :: ds => readDigits? 8 (d :: ds)
  | ds => readDigits? 10 ds

def dottedParts (cs : List Char) : List (List Char) :=
  let parts := cs.splitOn '.'
  if parts.length > 1 && parts.getLast?.any List.isEmpty then parts.dropLast else parts

/-- Whether a name has to be an address because its last part is a number. -/
def endsInNumber (cs : List Char) : Bool :=
  match (dottedParts cs).getLast? with
  | none => false
  | some [] => false
  | some last => last.all Char.isDigit || (readPart? last).isSome

def joinParts? (parts : List Nat) : Option Nat :=
  match parts.reverse with
  | [] => none
  | last :: others =>
    let unit := 1 <<< (8 * (4 - others.length))
    if 4 ≤ others.length ∨ others.any (255 < ·) ∨ unit ≤ last then none
    else some (others.reverse.foldl (fun n b => 256 * n + b) 0 * unit + last)

def readAddress4? (cs : List Char) : Option Nat := do
  joinParts? (← (dottedParts cs).mapM readPart?)

def writeAddress4 (n : Nat) : String :=
  ".".intercalate ((Bytes.ofNat 4 n).map fun b => toString b.toNat)

/-! ### Addresses of 128 bits -/

def readByte? (cs : List Char) : Option Nat :=
  match cs with
  | [] => none
  | ['0'] => some 0
  | '0' :: _ => none
  | cs => do
    let n ← readDigits? 10 cs
    if n < 256 then return n else none

def readTail? (cs : List Char) : Option (List Nat) :=
  match (cs.splitOn '.').mapM readByte? with
  | some [a, b, c, d] => some [256 * a + b, 256 * c + d]
  | _ => none

def readPiece? (cs : List Char) : Option Nat :=
  if cs.isEmpty ∨ 4 < cs.length then none else readDigits? 16 cs

def readPieces? (fields : List (List Char)) : Option (List Nat) :=
  match fields with
  | [] => some []
  | [f] => if f.contains '.' then readTail? f else (readPiece? f).map fun n => [n]
  | f :: fs => do return (← readPiece? f) :: (← readPieces? fs)

def colonFields (cs : List Char) : List (List Char) :=
  if cs.isEmpty then [] else cs.splitOn ':'

def splitGap? : List Char → Option (List Char × List Char)
  | [] => none
  | ':' :: ':' :: cs => some ([], cs)
  | c :: cs => (splitGap? cs).map fun (a, b) => (c :: a, b)

def readAddress6? (cs : List Char) : Option (List Nat) :=
  match splitGap? cs with
  | none => do
    let pieces ← readPieces? (colonFields cs)
    if pieces.length = 8 then return pieces else none
  | some (before, after) => do
    if before.contains '.' then none
    let a ← readPieces? (colonFields before)
    let b ← readPieces? (colonFields after)
    if a.length + b.length ≤ 7 then return a ++ List.replicate (8 - a.length - b.length) 0 ++ b else none

def longestZeros (pieces : List Nat) : Nat × Nat :=
  let runs := (List.range pieces.length).map fun i => (i, ((pieces.drop i).takeWhile (· == 0)).length)
  runs.foldl (fun best r => if best.2 < r.2 then r else best) (0, 0)

def writePieces (pieces : List Nat) : String :=
  ":".intercalate (pieces.map fun n => String.ofList (Nat.toDigits 16 n))

def writeAddress6 (pieces : List Nat) : String :=
  let (start, length) := longestZeros pieces
  if length < 2 then writePieces pieces
  else writePieces (pieces.take start) ++ "::" ++ writePieces (pieces.drop (start + length))

end PodProbe.Url
