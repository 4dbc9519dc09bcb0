import PodProbe.Der

/-!
This module contains the times in certificates. Only their form matters here: digits that name a moment of the
calendar, and the zone.
-/

namespace PodProbe.X509

def twoDigits? (a b : UInt8) : Option Nat :=
  if 48 ≤ a ∧ a ≤ 57 ∧ 48 ≤ b ∧ b ≤ 57 then some ((a.toNat - 48) * 10 + (b.toNat - 48)) else none

def takePairs : Nat → Bytes → Option (List Nat × Bytes)
  | 0, bs => some ([], bs)
  | n + 1, a :: b :: bs => do
    let x ← twoDigits? a b
    let (xs, rest) ← takePairs n bs
    return (x :: xs, rest)
  | _ + 1, _ => none

def isLeap (year : Nat) : Bool :=
  year % 4 = 0 && (year % 100 ≠ 0 || year % 400 = 0)

def daysOf (year month : Nat) : Nat :=
  if month = 2 then (if isLeap year then 29 else 28)
  else if month = 4 ∨ month = 6 ∨ month = 9 ∨ month = 11 then 30
  else if 1 ≤ month ∧ month ≤ 12 then 31
  else 0

def isMoment (year month day hour minute second : Nat) : Bool :=
  1 ≤ day && day ≤ daysOf year month && hour ≤ 23 && minute ≤ 59 && second ≤ 59

def takeSeconds (bs : Bytes) : Option (Nat × Bytes) :=
  match bs with
  | a :: b :: rest => (twoDigits? a b).map (·, rest)
  | bs => if bs.isEmpty then none else some (0, bs)

def isZone : Bytes → Bool
  | [0x5A] => true
  | [sign, a, b, c, d] =>
    (sign == 0x2B || sign == 0x2D)
      && (match twoDigits? a b, twoDigits? c d with
        | some h, some m => h ≤ 25 && m ≤ 59
        | _, _ => false)
  | _ => false

def dropFraction (bs : Bytes) : Option Bytes :=
  match bs with
  | 0x2E :: bs =>
    let digits := (bs.takeWhile fun b => 48 ≤ b && b ≤ 57).length
    if digits = 0 ∨ 3 < digits then none else some (bs.drop digits)
  | bs => some bs

/-- Whether a time has the form `YYMMDDhhmm[ss]zone`, where years from 50 on belong to the last century. -/
def isUtcTime (bs : Bytes) : Bool :=
  match takePairs 5 bs with
  | some ([yy, month, day, hour, minute], rest) =>
    match takeSeconds rest with
    | some (second, zone) =>
      isMoment (if yy < 50 then 2000 + yy else 1900 + yy) month day hour minute second && isZone zone
    | none => false
  | _ => false

def isGeneralizedTime (bs : Bytes) : Bool :=
  match takePairs 6 bs with
  | some ([high, low, month, day, hour, minute], rest) =>
    match takeSeconds rest with
    | some (second, rest) =>
      isMoment (high * 100 + low) month day hour minute second && dropFraction rest == some [0x5A]
    | none => false
  | _ => false

def utcTimeType : Nat := 23

def generalizedTimeType : Nat := 24

def skipTime (bs : Bytes) : Option Bytes := do
  let (e, rest) ← Der.readElement bs
  if e.number = utcTimeType ∧ isUtcTime e.contents then return rest
  else if e.number = generalizedTimeType ∧ !e.constructed ∧ isGeneralizedTime e.contents then return rest
  else none

end PodProbe.X509
