/-!
This module contains the reading of decimal integers.
-/

namespace PodProbe.Text

def natural? (cs : List Char) : Option Nat :=
  if cs.isEmpty ∨ !cs.all Char.isDigit then none
  else some (cs.foldl (fun n c => 10 * n + (c.toNat - 48)) 0)

def integer? : List Char → Option Int
  | '-' :: cs => (natural? cs).map fun n => -(n : Int)
  | '+' :: cs => (natural? cs).map Int.ofNat
  | cs => (natural? cs).map Int.ofNat

/-- Why a text is not a number of the range that is asked for. -/
inductive NumberFault where
  | empty
  | digit
  | tooLarge
deriving DecidableEq, Repr

def NumberFault.message : NumberFault → String
  | empty => "cannot parse integer from empty string"
  | digit => "invalid digit found in string"
  | tooLarge => "number too large to fit in target type"

/-- Reads digits up to the first place where something is wrong, which may be the size of the number. -/
def readBelow (bound : Nat) (n : Nat) : List Char → Except NumberFault Nat
  | [] => .ok n
  | c :: cs =>
    if !c.isDigit then .error .digit
    else
      let n := 10 * n + (c.toNat - 48)
      if bound ≤ n then .error .tooLarge else readBelow bound n cs

def naturalBelow (bound : Nat) : List Char → Except NumberFault Nat
  | [] => .error .empty
  | ['+'] => .error .digit
  | '+' :: cs => readBelow bound 0 cs
  | cs => readBelow bound 0 cs

end PodProbe.Text
