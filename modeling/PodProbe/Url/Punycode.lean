/-!
This module contains the encoding of labels of domain names in letters, digits and hyphens. The characters that are
not ASCII are written in ascending order, each as the distance from the one before, in numbers of variable length
whose digits are weighted by what was written before.
-/

namespace PodProbe.Url.Punycode

def digitChar (d : Nat) : Char :=
  if d < 26 then Char.ofNat (0x61 + d) else Char.ofNat (0x30 + (d - 26))

def digitValue? (c : Char) : Option Nat :=
  if 'a' ≤ c ∧ c ≤ 'z' then some (c.toNat - 0x61)
  else if 'A' ≤ c ∧ c ≤ 'Z' then some (c.toNat - 0x41)
  else if '0' ≤ c ∧ c ≤ '9' then some (c.toNat - 0x30 + 26)
  else none

def threshold (bias position : Nat) : Nat :=
  if position ≤ bias then 1 else if bias + 26 ≤ position then 26 else position - bias

theorem threshold_pos (bias position : Nat) : 1 ≤ threshold bias position := by
  unfold threshold
  split
  · omega
  · split <;> omega

def shrink (delta k : Nat) : Nat × Nat :=
  if 455 < delta then shrink (delta / 35) (k + 36) else (delta, k)
termination_by delta

def adapt (delta count : Nat) (first : Bool) : Nat :=
  let delta := if first then delta / 700 else delta / 2
  let (delta, k) := shrink (delta + delta / count) 0
  k + 36 * delta / (delta + 38)

/-! ### Reading -/

def readNumber (bias : Nat) : Nat → Nat → Nat → List Char → Option (Nat × List Char)
  | _, _, _, [] => none
  | position, weight, i, c :: cs =>
    match digitValue? c with
    | none => none
    | some d =>
      let i := i + d * weight
      let t := threshold bias position
      if d < t then some (i, cs) else readNumber bias (position + 36) (weight * (36 - t)) i cs

theorem length_of_readNumber {bias : Nat} {cs : List Char} {position weight i : Nat} {r : Nat × List Char}
    (h : readNumber bias position weight i cs = some r) : r.2.length < cs.length := by
  induction cs generalizing position weight i with
  | nil => simp [readNumber] at h
  | cons c cs ih =>
    unfold readNumber at h
    split at h
    · simp at h
    · simp only at h
      split at h
      · simp only [Option.some.injEq] at h
        simp [← h]
      · have := ih h
        simp only [List.length_cons]
        omega

def readInsertions (code i bias : Nat) (known : List Char) (cs : List Char) : Option (List Char) :=
  match cs with
  | [] => some known
  | c :: cs' =>
    match _h : readNumber bias 36 1 i (c :: cs') with
    | none => none
    | some (j, rest) =>
      let count := known.length + 1
      let code := code + j / count
      let place := j % count
      if code.isValidChar then
        readInsertions code (place + 1) (adapt (j - i) count (i = 0)) (known.insertIdx place (Char.ofNat code)) rest
      else none
termination_by cs.length
decreasing_by exact length_of_readNumber ‹_›

def splitLastHyphen (cs : List Char) : List Char × List Char :=
  let after := (cs.reverse.takeWhile (· != '-')).reverse
  if after.length = cs.length then ([], cs) else (cs.take (cs.length - after.length - 1), after)

def decode? (cs : List Char) : Option (List Char) :=
  let (known, rest) := splitLastHyphen cs
  if known.all (·.toNat < 0x80) then readInsertions 0x80 0 72 known rest else none

/-! ### Writing -/

def writeNumber (bias position n : Nat) : List Char :=
  let t := threshold bias position
  if n < t then [digitChar n]
  else digitChar (t + (n - t) % (36 - t)) :: writeNumber bias (position + 36) ((n - t) / (36 - t))
termination_by n
decreasing_by
  have := threshold_pos bias position
  exact Nat.lt_of_le_of_lt (Nat.div_le_self _ _) (by omega)

structure Progress where
  written : List Char
  delta : Nat
  bias : Nat
  count : Nat

def writeChar (known code : Nat) (p : Progress) (c : Char) : Progress :=
  if c.toNat < code then { p with delta := p.delta + 1 }
  else if c.toNat = code then
    { written := p.written ++ writeNumber p.bias 36 p.delta
      delta := 0
      bias := adapt p.delta (p.count + 1) (p.count = known)
      count := p.count + 1 }
  else p

def writeInsertions (cs : List Char) (known : Nat) : List Nat → Nat → Progress → Progress
  | [], _, p => p
  | n :: ns, code, p =>
    let p := { p with delta := p.delta + (n - code) * (p.count + 1) }
    let p := cs.foldl (writeChar known n) p
    writeInsertions cs known ns (n + 1) { p with delta := p.delta + 1 }

def insertCode (n : Nat) : List Nat → List Nat
  | [] => [n]
  | m :: ms => if n < m then n :: m :: ms else if n = m then m :: ms else m :: insertCode n ms

def encode (cs : List Char) : List Char :=
  let known := cs.filter (·.toNat < 0x80)
  let codes := ((cs.filter (0x80 ≤ ·.toNat)).map Char.toNat).foldr insertCode []
  let p := writeInsertions cs known.length codes 0x80 { written := [], delta := 0, bias := 72, count := known.length }
  known ++ (if known.isEmpty then [] else ['-']) ++ p.written

end PodProbe.Url.Punycode
