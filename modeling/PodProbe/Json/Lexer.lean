import PodProbe.Json
import PodProbe.Json.Fault

/-!
This module contains the reading of the tokens of JSON: blanks, words, numbers and strings. A reader takes the
characters that are left and gives a value with the characters after it, or the fault at which it stopped.
-/

namespace PodProbe.Json

abbrev Result := Except Fault

def fault {α : Type} (cause : Cause) (rest : List Char) : Result α :=
  .error ⟨cause, byteCount rest⟩

def faultAhead {α : Type} (cause : Cause) (rest : List Char) : Result α :=
  .error ⟨cause, byteCount rest - 1⟩

def isSpace (c : Char) : Bool :=
  c == ' ' || c == '\n' || c == '\t' || c == '\r'

def skipSpace (cs : List Char) : List Char :=
  cs.dropWhile isSpace

def readWord {α : Type} (value : α) : List Char → List Char → Result (α × List Char)
  | [], cs => .ok (value, cs)
  | _ :: _, [] => fault .endInValue []
  | w :: ws, c :: cs =>
    if c = w then readWord value ws cs
    else .error ⟨.expectedIdent, byteCount (c :: cs) - 1⟩

/-! ### Numbers -/

def digit (c : Char) : Nat :=
  c.toNat - 48

def digitAhead : List Char → Bool
  | c :: _ => c.isDigit
  | [] => false

def greatestSignificand : Nat := 1 <<< 64 - 1

def readDigits (n count : Nat) : List Char → Nat × Nat × List Char
  | [] => (n, count, [])
  | c :: cs =>
    if c.isDigit ∧ 10 * n + digit c ≤ greatestSignificand then readDigits (10 * n + digit c) (count + 1) cs
    else (n, count, c :: cs)

def greatestPower : Nat := 308

def scale (d : Double) (e : Int) : Option Double :=
  if d.isZero then some d
  else if 0 ≤ e then
    if e ≤ greatestPower then d.mul? (Double.tenTo e.toNat) else none
  else if -e ≤ greatestPower then d.div? (Double.tenTo (-e).toNat)
  else
    match d.div? (Double.tenTo greatestPower) with
    | some d => scale d (e + greatestPower)
    | none => none
termination_by (-e).toNat
decreasing_by simp only [greatestPower]; omega

/-- The double `± significand * 10 ^ e`, where each step of the computation is rounded. -/
def readReal (negative : Bool) (significand : Nat) (e : Int) (rest : List Char) : Result (Json × List Char) :=
  match (Double.ofNat? significand).bind (scale · e) with
  | some d => .ok (.real { d with negative := negative }, rest)
  | none => fault .numberOutOfRange rest

def greatestWrittenExponent : Nat := 1 <<< 31 - 1

/-- Reads the digits of an exponent until it no longer fits 31 bits. -/
def readExponentDigits (e : Nat) : List Char → Nat × List Char
  | [] => (e, [])
  | c :: cs =>
    if c.isDigit then
      if 10 * e + digit c ≤ greatestWrittenExponent then readExponentDigits (10 * e + digit c) cs
      else (10 * e + digit c, cs)
    else (e, c :: cs)

def readExponent (negative : Bool) (significand : Nat) (start : Int) (cs : List Char) : Result (Json × List Char) :=
  let (down, cs) :=
    match cs with
    | '+' :: cs => (false, cs)
    | '-' :: cs => (true, cs)
    | cs => (false, cs)
  match cs with
  | [] => fault .endInValue []
  | c :: cs =>
    if !c.isDigit then .error ⟨.invalidNumber, byteCount (c :: cs) - 1⟩
    else
      let (e, cs) := readExponentDigits (digit c) cs
      if greatestWrittenExponent < e then
        if significand ≠ 0 ∧ !down then fault .numberOutOfRange cs
        else .ok (.real { Double.zero with negative := negative }, cs.dropWhile Char.isDigit)
      else readReal negative significand (if down then start - e else start + e) cs

def finishReal (negative : Bool) (significand : Nat) (e : Int) (cs : List Char) : Result (Json × List Char) :=
  match cs with
  | 'e' :: cs => readExponent negative significand e cs
  | 'E' :: cs => readExponent negative significand e cs
  | cs => readReal negative significand e cs

/-- Reads what follows the point; digits that no longer fit the significand are dropped. -/
def readFraction (negative : Bool) (significand : Nat) (e : Int) (cs : List Char) : Result (Json × List Char) :=
  let (n, count, cs) := readDigits significand 0 cs
  if digitAhead cs then finishReal negative n (e - count) (cs.dropWhile Char.isDigit)
  else if count = 0 then
    match cs with
    | [] => fault .endInValue []
    | cs => faultAhead .invalidNumber cs
  else finishReal negative n (e - count) cs

def finishNumber (negative : Bool) (significand : Nat) (cs : List Char) : Result (Json × List Char) :=
  match cs with
  | '.' :: cs => readFraction negative significand 0 cs
  | 'e' :: cs => readExponent negative significand 0 cs
  | 'E' :: cs => readExponent negative significand 0 cs
  | cs =>
    if !negative then .ok (.int significand, cs)
    else if significand ≠ 0 ∧ significand ≤ 1 <<< 63 then .ok (.int (-(significand : Int)), cs)
    else readReal true significand 0 cs

/-- Digits of an integer that no longer fit the significand only raise the exponent. -/
def finishLong (negative : Bool) (significand : Nat) (cs : List Char) : Result (Json × List Char) :=
  let e := (cs.takeWhile Char.isDigit).length
  match cs.dropWhile Char.isDigit with
  | '.' :: cs => readFraction negative significand e cs
  | cs => finishReal negative significand e cs

def readNumber (negative : Bool) (cs : List Char) : Result (Json × List Char) :=
  match cs with
  | [] => fault .endInValue []
  | c :: rest =>
    if c = '0' then
      if digitAhead rest then faultAhead .invalidNumber rest else finishNumber negative 0 rest
    else if c.isDigit then
      let (n, _, rest) := readDigits (digit c) 0 rest
      if digitAhead rest then finishLong negative n rest else finishNumber negative n rest
    else .error ⟨.invalidNumber, byteCount cs - 1⟩

/-! ### Strings -/

/-- The four bytes after `\u` as a number; they count as read even when they are no digits. -/
def readHex (cs : List Char) : Result (Nat × List Char) :=
  match cs with
  | a :: b :: c :: d :: rest =>
    match Bytes.hexValue? a, Bytes.hexValue? b, Bytes.hexValue? c, Bytes.hexValue? d with
    | some a, some b, some c, some d => .ok (((a * 16 + b) * 16 + c) * 16 + d, rest)
    | _, _, _, _ => .error ⟨.invalidEscape, byteCount cs - 4⟩
  | cs => if 4 ≤ byteCount cs then .error ⟨.invalidEscape, byteCount cs - 4⟩ else fault .endInString []

def readUnicode (cs : List Char) : Result (Char × List Char) := do
  let (n, cs) ← readHex cs
  if 0xDC00 ≤ n ∧ n ≤ 0xDFFF then fault .loneSurrogate cs
  else if n < 0xD800 ∨ 0xDBFF < n then .ok (Char.ofNat n, cs)
  else
    match cs with
    | [] => fault .endInString []
    | '\\' :: [] => fault .endInString []
    | '\\' :: 'u' :: cs => do
      let (m, cs) ← readHex cs
      if m < 0xDC00 ∨ 0xDFFF < m then fault .loneSurrogate cs
      else .ok (Char.ofNat (0x10000 + (n - 0xD800) * 0x400 + (m - 0xDC00)), cs)
    | '\\' :: cs => faultAhead .endOfHexEscape cs
    | cs => faultAhead .endOfHexEscape cs

def readEscape (cs : List Char) : Result (Char × List Char) :=
  match cs with
  | [] => fault .endInString []
  | '"' :: cs => .ok ('"', cs)
  | '\\' :: cs => .ok ('\\', cs)
  | '/' :: cs => .ok ('/', cs)
  | 'b' :: cs => .ok ('\x08', cs)
  | 'f' :: cs => .ok ('\x0c', cs)
  | 'n' :: cs => .ok ('\n', cs)
  | 'r' :: cs => .ok ('\r', cs)
  | 't' :: cs => .ok ('\t', cs)
  | 'u' :: cs => readUnicode cs
  | cs => faultAhead .invalidEscape cs

def readChars (acc : List Char) : Nat → List Char → Result (List Char × List Char)
  | 0, cs => fault .endInString cs
  | fuel + 1, cs =>
    match cs with
    | [] => fault .endInString []
    | '"' :: cs => .ok (acc.reverse, cs)
    | '\\' :: cs => do
      let (c, cs) ← readEscape cs
      readChars (c :: acc) fuel cs
    | c :: cs => if c.toNat < 0x20 then fault .controlCharacter cs else readChars (c :: acc) fuel cs

def readString (cs : List Char) : Result (String × List Char) := do
  let (s, cs) ← readChars [] (cs.length + 1) cs
  return (String.ofList s, cs)

end PodProbe.Json
