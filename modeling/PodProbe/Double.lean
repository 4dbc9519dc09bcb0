/-!
This module contains the finite numbers of the format binary64, with the operations that round to nearest, a half
going to the even neighbour. All arithmetic is exact arithmetic on natural numbers with one rounding at the end.
-/

namespace PodProbe

/--
The number `± mantissa * 2 ^ exponent`. The mantissa has at most 53 bits; it has fewer only where the exponent is
the least one, -1074.
-/
structure Double where
  negative : Bool
  mantissa : Nat
  exponent : Int
deriving DecidableEq, Repr, Inhabited

namespace Double

def zero : Double := ⟨false, 0, -1074⟩

def isZero (d : Double) : Bool :=
  d.mantissa == 0

def leastExponent : Int := -1074

def greatestExponent : Int := 971

def fraction (n : Nat) (e : Int) : Nat × Nat :=
  if 0 ≤ e then (n <<< e.toNat, 1) else (n, 1 <<< (-e).toNat)

def roundHalfEven (num den : Nat) : Nat :=
  let q := num / den
  let r := num % den
  if 2 * r < den then q
  else if den < 2 * r then q + 1
  else if q % 2 = 0 then q else q + 1

def exponentOf (num den : Nat) : Int :=
  let e : Int := (num.log2 : Int) - den.log2 - 53
  let (a, b) := fraction num (-(e + 53))
  max leastExponent (if b * den ≤ a then e + 1 else e)

/-- The nearest number of the format, unless it would be infinite. -/
def ofRatio? (num den : Nat) : Option Double :=
  if num = 0 then some zero
  else
    let e := exponentOf num den
    let (a, b) := fraction num (-e)
    let m := roundHalfEven a (b * den)
    let d : Double := if m = 1 <<< 53 then ⟨false, 1 <<< 52, e + 1⟩ else ⟨false, m, e⟩
    if greatestExponent < d.exponent then none else some d

def ofNat? (n : Nat) : Option Double :=
  ofRatio? n 1

/-- The rounded product, unless it would be infinite. -/
def mul? (x y : Double) : Option Double := do
  let (a, b) := fraction (x.mantissa * y.mantissa) (x.exponent + y.exponent)
  let d ← ofRatio? a b
  return { d with negative := x.negative != y.negative }

/-- The rounded quotient by a number other than zero, unless it would be infinite. -/
def div? (x y : Double) : Option Double := do
  let (a, b) := fraction x.mantissa (x.exponent - y.exponent)
  let d ← ofRatio? a (b * y.mantissa)
  return { d with negative := x.negative != y.negative }

def tenTo (k : Nat) : Double :=
  (ofNat? (Nat.pow 10 k)).getD zero

end Double

end PodProbe
