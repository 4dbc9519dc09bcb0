/-!
This module contains a measure of how similar two texts are, by which a mistyped word is told from a wrong one. It
counts the characters that the texts share at about the same places, and how many of these are out of order.
-/

namespace PodProbe.Text

def mark? (x : Char) : (skipped places : Nat) → List (Char × Bool) → Option (List (Char × Bool))
  | _, _, [] => none
  | n + 1, k, p :: ps => (mark? x n k ps).map (p :: ·)
  | 0, 0, _ => none
  | 0, k + 1, (c, marked) :: ps =>
    if c = x ∧ !marked then some ((c, true) :: ps) else (mark? x 0 k ps).map ((c, marked) :: ·)

def reach (a b : List Char) : Nat :=
  max a.length b.length / 2 - 1

def shared (reach i : Nat) (ps : List (Char × Bool)) : List Char → List Char × List (Char × Bool)
  | [] => ([], ps)
  | c :: cs =>
    match mark? c (i - reach) (i + reach + 1 - (i - reach)) ps with
    | none => shared reach (i + 1) ps cs
    | some ps =>
      let (found, ps) := shared reach (i + 1) ps cs
      (c :: found, ps)

def similarity (a b : List Char) : Float :=
  let (inA, marks) := shared (reach a b) 0 (b.map fun c => (c, false)) a
  let inB := (marks.filter (·.2)).map (·.1)
  let common := inA.length
  let outOfOrder := ((inA.zip inB).filter fun (x, y) => x != y).length / 2
  if a.isEmpty && b.isEmpty then 1
  else if common == 0 then 0
  else
    let n := common.toFloat
    (n / a.length.toFloat + n / b.length.toFloat + (common - outOfOrder).toFloat / n) / 3

def mostSimilar? (s : String) (candidates : List String) : Option String :=
  (candidates.foldl (fun best c =>
    let x := similarity s.toList c.toList
    if 0.7 < x then
      match best with
      | some (_, y) => if x < y then best else some (c, x)
      | none => some (c, x)
    else best) none).map (·.1)

end PodProbe.Text
