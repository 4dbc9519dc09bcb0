/-!
This module contains tables of properties of code points. A table is a list of runs in ascending order, and it is
written as a text: each run is a word that gives, in base 36, how many code points lie between it and the run before,
then a point, how many more than one it has, and then its value.
-/

namespace PodProbe.Unicode

structure Run (α : Type) where
  first : Nat
  last : Nat
  value : α

abbrev Table (α : Type) := Array (Run α)

def digit36? (c : Char) : Option Nat :=
  if '0' ≤ c ∧ c ≤ '9' then some (c.toNat - 48)
  else if 'a' ≤ c ∧ c ≤ 'z' then some (c.toNat - 87)
  else none

def takeNumber (n : Nat) : List Char → Nat × List Char
  | [] => (n, [])
  | c :: cs =>
    match digit36? c with
    | some d => takeNumber (36 * n + d) cs
    | none => (n, c :: cs)

def number36? (cs : List Char) : Option Nat :=
  match takeNumber 0 cs with
  | (n, []) => some n
  | _ => none

def numbers36? (cs : List Char) : Option (List Nat) :=
  (cs.splitOn ',').mapM number36?

def number? : List Char → Option Nat
  | ':' :: cs => number36? cs
  | _ => none

def pair? : List Char → Option (Nat × Nat)
  | '=' :: cs =>
    match numbers36? cs with
    | some [a, b] => some (a, b)
    | _ => none
  | _ => none

namespace Table

variable {α : Type}

def readRun (value : List Char → Option α) (next : Nat) (word : List Char) : Option (Run α) :=
  let (gap, cs) := takeNumber 0 word
  let (extra, cs) := takeNumber 0 (cs.drop 1)
  (value cs).map fun v => ⟨next + gap, next + gap + extra, v⟩

def ofText (value : List Char → Option α) (text : String) : Table α :=
  let words := (text.toList.splitBy fun a b => isSpace a == isSpace b).filter fun w => !w.any isSpace
  (words.foldl step (0, #[])).2
where
  isSpace (c : Char) : Bool := c == ' ' || c == '\n'
  step (acc : Nat × Table α) (word : List Char) : Nat × Table α :=
    match readRun value acc.1 word with
    | some r => (r.last + 1, acc.2.push r)
    | none => acc

def findRun? (t : Table α) (n : Nat) : Option (Run α) :=
  go 0 t.size
where
  go (lo hi : Nat) : Option (Run α) :=
    if lo < hi then
      let mid := (lo + hi) / 2
      match t[mid]? with
      | none => none
      | some r =>
        if n < r.first then go lo mid
        else if r.last < n then go (mid + 1) hi
        else some r
    else none
  termination_by hi - lo

def find? (t : Table α) (n : Nat) : Option α :=
  (t.findRun? n).map Run.value

def contains (t : Table α) (n : Nat) : Bool :=
  (t.findRun? n).isSome

end Table

end PodProbe.Unicode
