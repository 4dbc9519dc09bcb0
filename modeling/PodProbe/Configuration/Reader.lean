import PodProbe.Configuration.Field
import PodProbe.Json.Reader
import PodProbe.Json.Skipper

/-!
This module contains the reading of stored configurations: an object with any of the fields, or an array with all of
them in order. Fields that are not known do not matter.
-/

namespace PodProbe.Configuration

open Json (Result fault faultAhead skipSpace)

/-- The fault of a value that is none of the wanted kind; an array or object is not entered. -/
def refuse {α : Type} (wanted : String) (cs : List Char) : Result α := do
  match cs with
  | [] => fault .endInValue []
  | '"' :: cs =>
    let (s, cs) ← Json.readString cs
    fault (.wrongType (.str s) wanted) cs
  | '[' :: cs => fault (.wrongType .sequence wanted) ('[' :: cs)
  | '\x7b' :: cs => fault (.wrongType .map wanted) ('\x7b' :: cs)
  | cs =>
    let (j, rest) ← Json.readValueWith none cs
    match j with
    | .null => fault (.wrongType .null wanted) rest
    | .bool b => fault (.wrongType (.bool b) wanted) rest
    | .int n => fault (.wrongType (.int n) wanted) rest
    | .real d => fault (.wrongType (.real d) wanted) rest
    | _ => faultAhead .expectedValue cs

def readText (cs : List Char) : Result (String × List Char) :=
  match skipSpace cs with
  | '"' :: cs => Json.readString cs
  | cs => refuse "a string" cs

def integerKind : String := "i64"

/-- The integer that a number is, if it is one that fits 64 bits; the number stands between the two texts. -/
def integerOf (j : Json) (cs rest : List Char) : Result (Int × List Char) :=
  match j with
  | .int n =>
    if Json.leastInt ≤ n ∧ n ≤ Json.greatestInt then .ok (n, rest) else fault (.wrongValue (.int n) integerKind) rest
  | .real d => fault (.wrongType (.real d) integerKind) rest
  | _ => refuse integerKind cs

def readInteger (cs : List Char) : Result (Int × List Char) := do
  match skipSpace cs with
  | '-' :: digits =>
    let (j, rest) ← Json.readNumber true digits
    integerOf j cs rest
  | c :: digits =>
    if c.isDigit then
      let (j, rest) ← Json.readNumber false (c :: digits)
      integerOf j cs rest
    else refuse integerKind (c :: digits)
  | [] => refuse integerKind []

def readOptional {α : Type} (read : List Char → Result (α × List Char)) (cs : List Char) :
    Result (Option α × List Char) := do
  match skipSpace cs with
  | 'n' :: cs => Json.readWord none ['u', 'l', 'l'] cs
  | cs =>
    let (x, cs) ← read cs
    return (some x, cs)

def readTexts (cs : List Char) : Result (List String × List Char) :=
  match skipSpace cs with
  | '[' :: cs => Json.readItems readText true (cs.length + 1) cs
  | cs => refuse "a sequence" cs

def readField (c : Configuration) (cs : List Char) : Field → Result (Configuration × List Char)
  | .webUrl => do
    let (x, cs) ← readOptional readText cs
    return ({ c with webUrl := x }, cs)
  | .podUrl => do
    let (x, cs) ← readOptional readText cs
    return ({ c with podUrl := x }, cs)
  | .podApiUrl => do
    let (x, cs) ← readOptional readText cs
    return ({ c with podApiUrl := x }, cs)
  | .keyManagerUrl => do
    let (x, cs) ← readOptional readText cs
    return ({ c with keyManagerUrl := x }, cs)
  | .sessionAuthUrl => do
    let (x, cs) ← readOptional readText cs
    return ({ c with sessionAuthUrl := x }, cs)
  | .keyAuthUrl => do
    let (x, cs) ← readOptional readText cs
    return ({ c with keyAuthUrl := x }, cs)
  | .agentApiUrl => do
    let (x, cs) ← readOptional readText cs
    return ({ c with agentApiUrl := x }, cs)
  | .podId => do
    let (x, cs) ← readOptional readInteger cs
    return ({ c with podId := x }, cs)
  | .rootFingerprints => do
    let (x, cs) ← readTexts cs
    return ({ c with rootFingerprints := x }, cs)
  | .serverFingerprints => do
    let (x, cs) ← readTexts cs
    return ({ c with serverFingerprints := x }, cs)

/-! ### Arrays -/

def Field.isOptional (f : Field) : Bool :=
  f == .rootFingerprints || f == .serverFingerprints

def lengthWanted : String := "struct DiscoveredConfig with 10 elements"

def closeArray (cs : List Char) : Result (List Char) :=
  match skipSpace cs with
  | [] => fault .endInList []
  | ']' :: cs => .ok cs
  | ',' :: cs =>
    match skipSpace cs with
    | ']' :: cs => faultAhead .trailingComma (']' :: cs)
    | cs => faultAhead .trailingCharacters cs
  | cs => faultAhead .trailingCharacters cs

def readInOrder (c : Configuration) (count : Nat) (cs : List Char) : List Field → Result (Configuration × List Char)
  | [] => do return (c, ← closeArray cs)
  | f :: fields => do
    let (more, rest) ← Json.itemAhead (count = 0) ']' .endInList .expectedListCommaOrEnd cs
    if more then
      let (c, rest) ← readField c rest f
      readInOrder c (count + 1) rest fields
    else if f.isOptional then return (c, rest)
    else fault (.wrongLength count lengthWanted) rest

/-! ### Objects -/

def refuseAgain {α : Type} (f : Field) (cs : List Char) : Result α :=
  match skipSpace cs with
  | '\x7d' :: cs => fault (.duplicateField f.key) cs
  | cs => fault (.duplicateField f.key) cs

def memberAhead (first : Bool) (cs : List Char) : Result (Bool × List Char) := do
  let (more, cs) ← Json.itemAhead first '\x7d' .endInObject .expectedObjectCommaOrEnd cs
  match cs with
  | '"' :: _ => return (more, cs)
  | cs => if more then faultAhead .keyMustBeString cs else return (more, cs)

def readMembers (c : Configuration) (seen : List Field) (first : Bool) : Nat → List Char →
    Result (Configuration × List Char)
  | 0, cs => fault .endInObject cs
  | fuel + 1, cs => do
    let (more, cs) ← memberAhead first cs
    if more then
      let (key, cs) ← Json.readKey cs
      match Field.ofKey? key with
      | some f =>
        if seen.contains f then refuseAgain f cs
        else
          let (_, cs) ← Json.readColon cs
          let (c, cs) ← readField c cs f
          readMembers c (f :: seen) false fuel cs
      | none =>
        let (_, cs) ← Json.readColon cs
        readMembers c seen false fuel (← Json.skipValue cs)
    else return (c, cs)

def readChars (cs : List Char) : Result Configuration := do
  let (c, cs) ←
    match skipSpace cs with
    | '[' :: cs => readInOrder {} 0 cs Field.all
    | '\x7b' :: cs => readMembers {} [] true (cs.length + 1) cs
    | cs => refuse "struct DiscoveredConfig" cs
  Json.finish c cs

def ofText (s : String) : Except String Configuration :=
  (readChars s.toList).mapError (Json.Fault.message s.toList)

end PodProbe.Configuration
