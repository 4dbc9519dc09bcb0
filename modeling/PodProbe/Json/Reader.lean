import PodProbe.Json.Lexer

/-!
This module contains the reading of a whole JSON text. Arrays and objects may lie in each other up to a fixed depth.
-/

namespace PodProbe.Json

def depthLimit : Nat := 127

def itemAhead (first : Bool) (close : Char) (endCause separator : Cause) (cs : List Char) : Result (Bool × List Char) :=
  match skipSpace cs with
  | [] => fault endCause []
  | c :: cs =>
    if c = close then .ok (false, cs)
    else if first then .ok (true, c :: cs)
    else if c = ',' then
      match skipSpace cs with
      | [] => fault .endInValue []
      | c :: cs => if c = close then faultAhead .trailingComma (c :: cs) else .ok (true, c :: cs)
    else faultAhead separator (c :: cs)

def readItems {α : Type} (item : List Char → Result (α × List Char)) (first : Bool) : Nat → List Char → Result (List α × List Char)
  | 0, cs => fault .endInList cs
  | fuel + 1, cs => do
    let (more, cs) ← itemAhead first ']' .endInList .expectedListCommaOrEnd cs
    if more then
      let (x, cs) ← item cs
      let (xs, cs) ← readItems item false fuel cs
      return (x :: xs, cs)
    else return ([], cs)

def readKey (cs : List Char) : Result (String × List Char) :=
  match cs with
  | '"' :: cs => readString cs
  | cs => faultAhead .keyMustBeString cs

def readColon (cs : List Char) : Result (Unit × List Char) :=
  match skipSpace cs with
  | [] => fault .endInObject []
  | ':' :: cs => .ok ((), cs)
  | cs => faultAhead .expectedColon cs

def readMembers (value : List Char → Result (Json × List Char)) (acc : List (String × Json)) (first : Bool) :
    Nat → List Char → Result (List (String × Json) × List Char)
  | 0, cs => fault .endInObject cs
  | fuel + 1, cs => do
    let (more, cs) ← itemAhead first '\x7d' .endInObject .expectedObjectCommaOrEnd cs
    if more then
      let (key, cs) ← readKey cs
      let (_, cs) ← readColon cs
      let (j, cs) ← value cs
      readMembers value (insertMember key j acc) false fuel cs
    else return (acc, cs)

/-- Reads a value; `inner` reads the values inside an array or object, unless these would lie too deep. -/
def readValueWith (inner : Option (List Char → Result (Json × List Char))) (cs : List Char) : Result (Json × List Char) :=
  match skipSpace cs with
  | [] => fault .endInValue []
  | 'n' :: cs => readWord .null ['u', 'l', 'l'] cs
  | 't' :: cs => readWord (.bool true) ['r', 'u', 'e'] cs
  | 'f' :: cs => readWord (.bool false) ['a', 'l', 's', 'e'] cs
  | '-' :: cs => readNumber true cs
  | '"' :: cs => do
    let (s, cs) ← readString cs
    return (.str s, cs)
  | '[' :: cs =>
    match inner with
    | none => faultAhead .tooDeep ('[' :: cs)
    | some value => do
      let (items, cs) ← readItems value true (cs.length + 1) cs
      return (.arr items, cs)
  | '\x7b' :: cs =>
    match inner with
    | none => faultAhead .tooDeep ('\x7b' :: cs)
    | some value => do
      let (members, cs) ← readMembers value [] true (cs.length + 1) cs
      return (.obj members, cs)
  | c :: cs => if c.isDigit then readNumber false (c :: cs) else faultAhead .expectedValue (c :: cs)

def readValue : Nat → List Char → Result (Json × List Char)
  | 0 => readValueWith none
  | depth + 1 => readValueWith (some (readValue depth))

/-- Ends the reading of a text, where nothing but blanks may follow. -/
def finish {α : Type} (value : α) (cs : List Char) : Result α :=
  match skipSpace cs with
  | [] => .ok value
  | cs => faultAhead .trailingCharacters cs

def ofChars (cs : List Char) : Result Json := do
  let (j, cs) ← readValue depthLimit cs
  finish j cs

def ofText (s : String) : Except String Json :=
  (ofChars s.toList).mapError (Fault.message s.toList)

end PodProbe.Json
