import PodProbe.HostName.Label
import PodProbe.Text.Blank

/-!
This module contains the names that a resolver may be asked for, and the reasons for which it is not asked at all.
-/

namespace PodProbe.HostName

/-- Why a text is no name. -/
inductive Fault where
  | character (c : Char)
  | digit (c : Char)
  | flaws (found : List LabelFlaw)
  | malformed (text : String)
  | longLabel (length : Nat)
  | longName (length : Nat)
deriving DecidableEq, Repr

def Fault.message : Fault → String
  | character c => "unrecognized char: " ++ String.singleton c
  | digit c => "illegal char: " ++ String.singleton c
  | flaws found => "Label contains invalid characters: Err(" ++ LabelFlaw.describe found ++ ")"
  | malformed text => "Malformed label: " ++ text
  | longLabel length => "label bytes exceed 63: " ++ toString length
  | longName length => "name label data exceed 255: " ++ toString length

/-! ### Labels -/

def isSafe (first : Bool) (c : Char) : Bool :=
  c.isAlphanum || c == '_' || (if first then c == '*' else c == '-') || c == '.'

def checkAscii (cs : List Char) : Except Fault (List Char) :=
  match cs with
  | [] => .error (.malformed "")
  | c :: rest =>
    if !(isSafe true c && rest.all (isSafe false)) then .error (.malformed (String.ofList cs))
    else if longestLabel < cs.length then .error (.longLabel cs.length)
    else .ok cs

def readLabel (cs : List Char) : Except Fault (List Char) :=
  if cs = ['*'] then .ok cs
  else if cs.head? = some '_' then checkAscii cs
  else
    match labelToAscii cs with
    | .ok ascii => checkAscii ascii
    | .error found => .error (.flaws found)

/-! ### Names -/

structure Reading where
  labels : List (List Char) := []
  label : List Char := []
  /-- The digits that were read since a backslash, if it is still open. -/
  escape : Option (List Nat) := none

def longestName : Nat := 255

def nameLength (labels : List (List Char)) : Nat :=
  labels.foldl (fun n l => n + l.length + 1) 0

namespace Reading

def push (r : Reading) (c : Char) : Reading :=
  { r with label := r.label ++ [c], escape := none }

def close (r : Reading) : Except Fault Reading := do
  let labels := r.labels ++ [← readLabel r.label]
  if longestName < nameLength labels then throw (.longName (nameLength labels))
  return { labels }

def isControl (c : Char) : Bool :=
  c.toNat < 0x20 || (0x7f ≤ c.toNat && c.toNat < 0xa0)

def octalDigit (c : Char) : Except Fault Nat :=
  if '0' ≤ c ∧ c ≤ '7' then .ok (c.toNat - '0'.toNat) else .error (.digit c)

def step (r : Reading) (c : Char) : Except Fault Reading := do
  match r.escape with
  | none =>
    if c = '.' then r.close
    else if c = '\\' then return { r with escape := some [] }
    else if isControl c || Text.isBlank c then throw (.character c)
    else return r.push c
  | some ds =>
    if c.isDigit then
      let ds := ds ++ [← octalDigit c]
      if ds.length = 3 then return r.push (Char.ofNat (ds.foldl (fun n d => 8 * n + d) 0))
      else return { r with escape := some ds }
    else if ds.isEmpty then return r.push c
    else throw (.character c)

end Reading

/-- The labels of a name. After a dot at the end there is no label. -/
def labels (s : String) : Except Fault (List (List Char)) := do
  if s = "." then return []
  let r ← s.toList.foldlM Reading.step {}
  if r.label.isEmpty then return r.labels
  return (← r.close).labels

/-- Why a resolver is not asked for a name, if so. -/
def fault? (s : String) : Option Fault :=
  match labels s with
  | .ok _ => none
  | .error e => some e

end PodProbe.HostName
