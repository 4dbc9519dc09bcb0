import PodProbe.Json.Lexer

/-!
This module contains the reading of values that are of no interest. Their form is checked, but not what their numbers
and escapes stand for, and they may lie in each other to any depth.
-/

namespace PodProbe.Json

/-- An array or object that is not closed yet. -/
inductive Frame where
  | list
  | object
deriving DecidableEq, Repr

namespace Frame

def close : Frame → Char
  | list => ']'
  | object => '\x7d'

def endCause : Frame → Cause
  | list => .endInList
  | object => .endInObject

def separatorCause : Frame → Cause
  | list => .expectedListCommaOrEnd
  | object => .expectedObjectCommaOrEnd

end Frame

def skipDigits (cs : List Char) : Result (List Char) :=
  match cs with
  | [] => fault .invalidNumber []
  | c :: cs => if c.isDigit then .ok (cs.dropWhile Char.isDigit) else .error ⟨.invalidNumber, byteCount (c :: cs) - 1⟩

def skipExponent : List Char → Result (List Char)
  | '+' :: cs => skipDigits cs
  | '-' :: cs => skipDigits cs
  | cs => skipDigits cs

def skipFraction (cs : List Char) : Result (List Char) :=
  if !digitAhead cs then faultAhead .invalidNumber cs
  else
    match cs.dropWhile Char.isDigit with
    | 'e' :: cs => skipExponent cs
    | 'E' :: cs => skipExponent cs
    | cs => .ok cs

def skipNumber (cs : List Char) : Result (List Char) := do
  let cs ←
    match cs with
    | '0' :: cs => if digitAhead cs then faultAhead .invalidNumber cs else .ok cs
    | cs => skipDigits cs
  match cs with
  | '.' :: cs => skipFraction cs
  | 'e' :: cs => skipExponent cs
  | 'E' :: cs => skipExponent cs
  | cs => return cs

def skipEscape (cs : List Char) : Result (List Char) :=
  match cs with
  | [] => fault .endInString []
  | 'u' :: cs => do
    let (_, cs) ← readHex cs
    return cs
  | c :: cs =>
    if ['"', '\\', '/', 'b', 'f', 'n', 'r', 't'].contains c then .ok cs else faultAhead .invalidEscape (c :: cs)

def skipString : Nat → List Char → Result (List Char)
  | 0, cs => fault .endInString cs
  | fuel + 1, cs =>
    match cs with
    | [] => fault .endInString []
    | '"' :: cs => .ok cs
    | '\\' :: cs => do skipString fuel (← skipEscape cs)
    | c :: cs => if c.toNat < 0x20 then fault .controlCharacter (c :: cs) else skipString fuel cs

def skipKey (cs : List Char) : Result (List Char) := do
  match skipSpace cs with
  | [] => fault .endInObject []
  | '"' :: cs =>
    let cs ← skipString (cs.length + 1) cs
    match skipSpace cs with
    | [] => fault .endInObject []
    | ':' :: cs => return cs
    | cs => faultAhead .expectedColon cs
  | cs => faultAhead .keyMustBeString cs

def nextValue (later : Bool) : List Frame → List Char → Result (List Frame × List Char)
  | [], cs => .ok ([], cs)
  | f :: frames, cs =>
    let enter (cs : List Char) : Result (List Frame × List Char) := do
      return (f :: frames, ← if f = .object then skipKey cs else .ok cs)
    match skipSpace cs with
    | [] => fault f.endCause []
    | c :: rest =>
      if later ∧ c = ',' then enter rest
      else if c = f.close then nextValue true frames rest
      else if later then faultAhead f.separatorCause (c :: rest)
      else enter (c :: rest)

/-- Reads a value that is no array or object, or opens one that is. -/
def skipStart (cs : List Char) : Result (Option Frame × List Char) :=
  match skipSpace cs with
  | [] => fault .endInValue []
  | 'n' :: cs => readWord none ['u', 'l', 'l'] cs
  | 't' :: cs => readWord none ['r', 'u', 'e'] cs
  | 'f' :: cs => readWord none ['a', 'l', 's', 'e'] cs
  | '-' :: cs => do return (none, ← skipNumber cs)
  | '"' :: cs => do return (none, ← skipString (cs.length + 1) cs)
  | '[' :: cs => .ok (some .list, cs)
  | '\x7b' :: cs => .ok (some .object, cs)
  | c :: cs => do
    if c.isDigit then return (none, ← skipNumber (c :: cs)) else faultAhead .expectedValue (c :: cs)

/-- Reads values until no frame is open; each round takes at least one of `fuel` characters. -/
def skipValues (frames : List Frame) : Nat → List Char → Result (List Char)
  | 0, cs => fault .endInValue cs
  | fuel + 1, cs => do
    let (opened, cs) ← skipStart cs
    let (frames, cs) ←
      match opened with
      | some f => nextValue false (f :: frames) cs
      | none => nextValue true frames cs
    if frames.isEmpty then return cs else skipValues frames fuel cs

def skipValue (cs : List Char) : Result (List Char) :=
  skipValues [] (cs.length + 1) cs

end PodProbe.Json
