import PodProbe.Unicode.Bidi
import PodProbe.Unicode.Joining
import PodProbe.Unicode.Mapping
import PodProbe.Unicode.Normal
import PodProbe.Url.Percent
import PodProbe.Url.Punycode

/-!
This module contains the form in which domain names are looked up. A name is mapped and normalized, its labels are
checked, and those that are not ASCII are encoded. Nothing is demanded of hyphens and of lengths.
-/

namespace PodProbe.Url

/-- The ASCII characters that no domain name holds. -/
def deniedInDomain (c : Char) : Bool :=
  isControl c || [' ', '%', '#', '/', ':', '<', '>', '?', '@', '[', '\\', ']', '^', '|'].contains c

def isAscii (cs : List Char) : Bool :=
  cs.all (·.toNat < 0x80)

def viramaClass : Nat := 9

def endsInVirama (before : List Char) : Bool :=
  before.getLast?.any (Unicode.combiningClass · == viramaClass)

/-- Whether the nearest character that is not transparent is of one of two joining types. -/
def joins (a b : Unicode.JoiningType) (cs : List Char) : Bool :=
  match cs.dropWhile (Unicode.joiningType · == .transparent) with
  | [] => false
  | c :: _ => Unicode.joiningType c == a || Unicode.joiningType c == b

/-- Whether every joiner of a label stands where it makes a difference. -/
def joinersFit (before : List Char) : List Char → Bool
  | [] => true
  | c :: cs =>
    let fits :=
      if c = '\u200c' then endsInVirama before || (joins .left .dual before.reverse && joins .right .dual cs)
      else if c = '\u200d' then endsInVirama before
      else true
    fits && joinersFit (before ++ [c]) cs

def isLabel (cs : List Char) : Bool :=
  !cs.head?.any Unicode.isMark && joinersFit [] cs

def longestEncoded : Nat := 2000

def longestDecoded : Nat := 1000

/-- The characters that an encoded label stands for. A label must not be encoded without need. -/
def decodeLabel? (cs : List Char) : Option (List Char) := do
  if longestEncoded < cs.length then none
  let label ← Punycode.decode? cs
  if isAscii label then none
  else if label.all Unicode.staysMapped && Unicode.normalize label == label && isLabel label then return label
  else none

def acePrefix : List Char := ['x', 'n', '-', '-']

def readLabel? (cs : List Char) : Option (List Char) :=
  if acePrefix.isPrefixOf cs then decodeLabel? (cs.drop acePrefix.length)
  else if isLabel cs then some cs
  else none

def isRightToLeft (cs : List Char) : Bool :=
  cs.any fun c => [Unicode.BidiClass.R, .AL, .AN].contains (Unicode.bidiClass c)

def directionsFit (cs : List Char) : Bool :=
  let classes := cs.map Unicode.bidiClass
  let neutral : List Unicode.BidiClass := [.EN, .ES, .CS, .ET, .ON, .BN, .NSM]
  let last := (classes.reverse.dropWhile (· == .NSM)).head?
  match classes with
  | [] => true
  | .L :: _ =>
    classes.all (fun k => k == .L || neutral.contains k) && last.any fun k => k == .L || k == .EN
  | k :: _ =>
    (k == .R || k == .AL)
      && classes.all (fun k => [Unicode.BidiClass.R, .AL, .AN].contains k || neutral.contains k)
      && last.any (fun k => [Unicode.BidiClass.R, .AL, .EN, .AN].contains k)
      && !(classes.contains .EN && classes.contains .AN)

def writeLabel? (cs : List Char) : Option (List Char) :=
  if isAscii cs then some cs
  else if longestDecoded < cs.length then none
  else some (acePrefix ++ Punycode.encode cs)

def splitLabels (cs : List Char) : List (List Char) :=
  cs.splitOn '.'

def joinLabels : List (List Char) → List Char
  | [] => []
  | [l] => l
  | l :: ls => l ++ '.' :: joinLabels ls

/-- The form of a domain name in ASCII, unless it has none. -/
def domainToAscii? (cs : List Char) : Option (List Char) := do
  let mapped ← cs.mapM Unicode.mapped?
  let name := Unicode.normalize mapped.flatten
  if name.any deniedInDomain then none
  let labels ← (splitLabels name).mapM readLabel?
  if labels.any isRightToLeft && !labels.all directionsFit then none
  let written ← labels.mapM writeLabel?
  return joinLabels written

end PodProbe.Url
