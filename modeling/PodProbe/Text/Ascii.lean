/-!
This module contains comparisons of texts that look at the case of ASCII letters only, and the search for one text
inside another.
-/

namespace PodProbe.Text

def lower (cs : List Char) : List Char :=
  cs.map Char.toLower

def sameIgnoringCase (a b : List Char) : Bool :=
  lower a == lower b

def occursIn (part : List Char) : List Char → Bool
  | [] => part.isEmpty
  | c :: cs => part.isPrefixOf (c :: cs) || occursIn part cs

theorem sameIgnoringCase_iff {a b : List Char} : sameIgnoringCase a b ↔ lower a = lower b := by
  simp [sameIgnoringCase]

end PodProbe.Text
