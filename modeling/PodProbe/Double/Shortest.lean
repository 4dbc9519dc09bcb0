import PodProbe.Double

/-!
This module contains the decimal text of a number of the format binary64: the fewest digits that read back as the
same number, and among those the nearest ones.
-/

namespace PodProbe.Double

structure Neighbourhood where
  low : Nat
  value : Nat
  high : Nat
  closed : Bool

def neighbourhood (d : Double) : Neighbourhood where
  low := if d.mantissa = 1 <<< 52 ∧ leastExponent < d.exponent then 4 * d.mantissa - 1 else 4 * d.mantissa - 2
  value := 4 * d.mantissa
  high := 4 * d.mantissa + 2
  closed := d.mantissa % 2 == 0

def magnitude (num den : Nat) : Int :=
  let estimate := ((num.log2 : Int) - den.log2) * 30103 / 100000 - 1
  let below (p : Int) : Bool :=
    if 0 ≤ p then num < den * Nat.pow 10 p.toNat else num * Nat.pow 10 (-p).toNat < den
  go below estimate 4
where
  go (below : Int → Bool) (p : Int) : Nat → Int
    | 0 => p
    | fuel + 1 => if below p then p else go below (p + 1) fuel

def onGrid (d : Double) (s : Int) : Option Nat :=
  let n := d.neighbourhood
  let (a, b) := fraction 1 (d.exponent - 2)
  let (up, down) := if 0 ≤ s then (1, Nat.pow 10 s.toNat) else (Nat.pow 10 (-s).toNat, 1)
  let value := n.value * a * up
  let unit := b * down
  let inside (c : Nat) : Bool :=
    let x := c * unit
    let low := n.low * a * up
    let high := n.high * a * up
    if n.closed then low ≤ x && x ≤ high else low < x && x < high
  let c := value / unit
  let r := value % unit
  let nearer := if 2 * r < unit ∨ (2 * r = unit ∧ c % 2 = 0) then c else c + 1
  let other := if nearer = c then c + 1 else c
  if 0 < nearer ∧ inside nearer then some nearer
  else if 0 < other ∧ inside other then some other
  else none

def stripZeros : Nat → Nat → Int → Nat × Int
  | 0, n, e => (n, e)
  | fuel + 1, n, e => if n ≠ 0 ∧ n % 10 = 0 then stripZeros fuel (n / 10) (e + 1) else (n, e)

def shortest (d : Double) : Nat × Int :=
  let (num, den) := fraction d.mantissa d.exponent
  let p := magnitude num den
  let hit := (List.range 17).findSome? fun (i : Nat) =>
    let s : Int := p - (i + 1)
    (d.onGrid s).map (·, s)
  match hit with
  | some (n, e) => stripZeros 18 n e
  | none => (0, 0)

/--
Numbers from `0.00001` up to below `10 ^ 16` are written positionally with at least one digit after the point, all
others with an exponent that carries its sign.
-/
def toText (d : Double) : String :=
  (if d.negative then "-" else "") ++
    if d.isZero then "0.0"
    else
      let (n, e) := d.shortest
      let ds := Nat.toDigits 10 n
      let k : Int := e + ds.length - 1
      String.ofList <|
        if -5 ≤ k ∧ k ≤ 15 then
          if 0 ≤ e then ds ++ List.replicate e.toNat '0' ++ ['.', '0']
          else if 0 ≤ k then ds.take (k + 1).toNat ++ '.' :: ds.drop (k + 1).toNat
          else '0' :: '.' :: List.replicate (-k - 1).toNat '0' ++ ds
        else
          let point := if ds.length = 1 then [] else ['.']
          ds.take 1 ++ point ++ ds.drop 1 ++ 'e' :: (if k < 0 then '-' else '+') :: Nat.toDigits 10 k.natAbs

end PodProbe.Double
