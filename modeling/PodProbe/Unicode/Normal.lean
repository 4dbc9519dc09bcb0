import PodProbe.Unicode.Composition

/-!
This module contains the normal form C of texts: characters are taken apart, marks are put in order, and what can be
composed is composed again. Characters that composition never produces are left as they are, so the form is that of
the standard only for texts without them.
-/

namespace PodProbe.Unicode

/-! ### Hangul syllables, which are composed by arithmetic -/

def leadBase : Nat := 0x1100

def vowelBase : Nat := 0x1161

def trailBase : Nat := 0x11A7

def syllableBase : Nat := 0xAC00

def leadCount : Nat := 19

def vowelCount : Nat := 21

def trailCount : Nat := 28

def syllableCount : Nat := leadCount * vowelCount * trailCount

def syllable? (c : Char) : Option (List Char) :=
  let n := c.toNat
  if syllableBase ≤ n ∧ n < syllableBase + syllableCount then
    let i := n - syllableBase
    let lead := Char.ofNat (leadBase + i / (vowelCount * trailCount))
    let vowel := Char.ofNat (vowelBase + i % (vowelCount * trailCount) / trailCount)
    if i % trailCount = 0 then some [lead, vowel]
    else some [lead, vowel, Char.ofNat (trailBase + i % trailCount)]
  else none

def joinSyllable? (a b : Char) : Option Char :=
  let m := a.toNat
  let n := b.toNat
  if leadBase ≤ m ∧ m < leadBase + leadCount ∧ vowelBase ≤ n ∧ n < vowelBase + vowelCount then
    some (Char.ofNat (syllableBase + ((m - leadBase) * vowelCount + (n - vowelBase)) * trailCount))
  else if syllableBase ≤ m ∧ m < syllableBase + syllableCount ∧ (m - syllableBase) % trailCount = 0
      ∧ trailBase < n ∧ n < trailBase + trailCount then
    some (Char.ofNat (m + (n - trailBase)))
  else none

/-! ### Taking apart, ordering and composing -/

def decompose (depth : Nat) (c : Char) : List Char :=
  match syllable? c with
  | some parts => parts
  | none =>
    match depth, compositions.find? c.toNat with
    | depth + 1, some (a, b) => decompose depth (Char.ofNat a) ++ [Char.ofNat b]
    | _, _ => [c]

def greatestDepth : Nat := 4

def insertMark (c : Char) (k : Nat) : List (Char × Nat) → List (Char × Nat)
  | [] => [(c, k)]
  | (d, j) :: ds => if j ≠ 0 ∧ j < k then (d, j) :: insertMark c k ds else (c, k) :: (d, j) :: ds

def orderMarks (cs : List Char) : List Char :=
  let ordered := cs.foldr (fun c ds =>
    let k := combiningClass c
    if k = 0 then (c, k) :: ds else insertMark c k ds) []
  ordered.map Prod.fst

def composePair? (a b : Char) : Option Char :=
  match joinSyllable? a b with
  | some c => some c
  | none => (Array.find? (fun r => r.value == (a.toNat, b.toNat)) compositions).map fun r => Char.ofNat r.first

def composeFrom (start : Char) (marks : List Char) (class? : Option Nat) : List Char → List Char
  | [] => start :: marks.reverse
  | c :: cs =>
    let k := combiningClass c
    let reachable : Bool := class?.all (· < k)
    match if reachable then composePair? start c else none with
    | some d => composeFrom d marks class? cs
    | none =>
      if k = 0 then start :: marks.reverse ++ composeFrom c [] none cs
      else composeFrom start (c :: marks) (some k) cs

def compose : List Char → List Char
  | [] => []
  | c :: cs => if combiningClass c = 0 then composeFrom c [] none cs else c :: compose cs

def normalize (cs : List Char) : List Char :=
  compose (orderMarks (cs.flatMap (decompose greatestDepth)))

end PodProbe.Unicode
