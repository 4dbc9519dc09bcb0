import PodProbe.Bytes

/-!
This module contains percent-encoding, by which a URL holds characters that it must not show, and the sets of ASCII
characters that the parts of a URL must not show.
-/

namespace PodProbe.Url

def upperHexDigit (n : Nat) : Char :=
  (Bytes.hexDigit n).toUpper

/-- Encodes the bytes of the characters in the set, and of all that are not ASCII. -/
def percentEncode (set : Char → Bool) (cs : List Char) : List Char :=
  cs.flatMap fun c =>
    if c.toNat < 0x80 && !set c then [c]
    else (Bytes.ofChars [c]).flatMap fun b => ['%', upperHexDigit (b.toNat / 16), upperHexDigit (b.toNat % 16)]

/-- A percent sign that is not followed by two digits stands for itself. -/
def percentDecode : List Char → Bytes
  | [] => []
  | '%' :: a :: b :: cs =>
    match Bytes.hexValue? a, Bytes.hexValue? b with
    | some x, some y => UInt8.ofNat (16 * x + y) :: percentDecode cs
    | _, _ => 0x25 :: percentDecode (a :: b :: cs)
  | c :: cs => Bytes.ofChars [c] ++ percentDecode cs

def isControl (c : Char) : Bool :=
  c.toNat < 0x20 || c.toNat == 0x7f

def fragmentSet (c : Char) : Bool :=
  isControl c || [' ', '"', '<', '>', '\x60'].contains c

def querySet (c : Char) : Bool :=
  isControl c || [' ', '"', '#', '<', '>'].contains c

/-- Queries of special schemes do not show an apostrophe either. -/
def specialQuerySet (c : Char) : Bool :=
  querySet c || c == '\x27'

def pathSet (c : Char) : Bool :=
  fragmentSet c || ['#', '?', '\x7b', '\x7d'].contains c

def userSet (c : Char) : Bool :=
  pathSet c || ['/', ':', ';', '=', '@', '[', '\\', ']', '^', '|'].contains c

end PodProbe.Url
