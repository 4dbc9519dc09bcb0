import PodProbe.Bytes

/-!
This module contains the division of bytes into lines. A line ends with its line feed, which only the last line may
lack.
-/

namespace PodProbe.Bytes

def splitLine : Bytes → Bytes × Bytes
  | [] => ([], [])
  | b :: bs =>
    if b = 10 then ([b], bs)
    else
      let (line, rest) := splitLine bs
      (b :: line, rest)

theorem splitLine_splitLine (bs : Bytes) : splitLine (splitLine bs).1 = ((splitLine bs).1, []) := by
  induction bs with
  | nil => rfl
  | cons b bs ih =>
    by_cases h : b = 10
    · simp [splitLine, h]
    · simp [splitLine, h, ih]

def consLine (b : UInt8) : List Bytes → List Bytes
  | [] => [[b]]
  | line :: lines => (b :: line) :: lines

def lines : Bytes → List Bytes
  | [] => []
  | b :: bs => if b = 10 then [b] :: lines bs else consLine b (lines bs)

end PodProbe.Bytes
