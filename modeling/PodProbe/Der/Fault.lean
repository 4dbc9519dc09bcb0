import PodProbe.Der

/-!
This module contains what can be wrong with a message in the distinguished encoding rules, and where.
-/

namespace PodProbe.Der

structure Tag where
  byte : UInt8
deriving DecidableEq, Repr

namespace Tag

def integer : Tag := ⟨0x02⟩

def octetString : Tag := ⟨0x04⟩

def null : Tag := ⟨0x05⟩

def objectIdentifier : Tag := ⟨0x06⟩

def sequence : Tag := ⟨0x30⟩

def universalNames : List (UInt8 × String) := [
  (0x01, "BOOLEAN"), (0x02, "INTEGER"), (0x03, "BIT STRING"), (0x04, "OCTET STRING"), (0x05, "NULL"),
  (0x06, "OBJECT IDENTIFIER"), (0x09, "REAL"), (0x0a, "ENUMERATED"), (0x0c, "UTF8String"), (0x12, "NumericString"),
  (0x13, "PrintableString"), (0x14, "TeletexString"), (0x15, "VideotexString"), (0x16, "IA5String"),
  (0x17, "UTCTime"), (0x18, "GeneralizedTime"), (0x1a, "VisibleString"), (0x1b, "GeneralString"),
  (0x1e, "BMPString"), (0x30, "SEQUENCE"), (0x31, "SET")]

/-- The class of a tag that is not universal. -/
def className (t : Tag) : String :=
  if t.byte < 0x80 then "APPLICATION" else if t.byte < 0xc0 then "CONTEXT-SPECIFIC" else "PRIVATE"

def name (t : Tag) : String :=
  match universalNames.lookup t.byte with
  | some s => s
  | none =>
    let form := if t.byte &&& 0x20 = 0 then "primitive" else "constructed"
    t.className ++ " [" ++ toString (t.byte &&& 0x1f).toNat ++ "] (" ++ form ++ ")"

end Tag

inductive Problem where
  | incomplete (expected actual : Nat)
  | trailing (decoded remaining : Nat)
  | unexpectedTag (expected : Option Tag) (actual : Tag)
  | unknownTag (byte : UInt8)
  | tagNumber
  | wrongLength (tag : Tag)
  | notCanonical (tag : Tag)
  | wrongValue (tag : Tag)
  | indefiniteLength
  | overflow
  | malformedIdentifier
  | unknownIdentifier (arcs : List Nat)
deriving DecidableEq, Repr

def byteText (b : UInt8) : String :=
  "0x" ++ Bytes.toHex [b]

def Problem.message : Problem → String
  | incomplete expected actual =>
    "ASN.1 DER message is incomplete: expected " ++ toString expected ++ ", actual " ++ toString actual
  | trailing decoded remaining =>
    "trailing data at end of DER message: decoded " ++ toString decoded ++ " bytes, " ++ toString remaining
      ++ " bytes remaining"
  | unexpectedTag (some expected) actual =>
    "unexpected ASN.1 DER tag: expected " ++ expected.name ++ ", got " ++ actual.name
  | unexpectedTag none actual => "unexpected ASN.1 DER tag: got " ++ actual.name
  | unknownTag byte => "unknown/unsupported ASN.1 DER tag: " ++ byteText byte
  | tagNumber => "invalid tag number"
  | wrongLength tag => "incorrect length for " ++ tag.name
  | notCanonical tag => "ASN.1 " ++ tag.name ++ " not canonically encoded as DER"
  | wrongValue tag => "malformed ASN.1 DER value for " ++ tag.name
  | indefiniteLength => "indefinite length disallowed"
  | overflow => "integer overflow"
  | malformedIdentifier => "malformed OID"
  | unknownIdentifier arcs => "unknown/unsupported OID: " ++ dotted arcs

/-- A problem, and the number of the byte where it was met if that is known. -/
structure Fault where
  problem : Problem
  position : Option Nat := none
deriving DecidableEq, Repr

namespace Fault

def message (f : Fault) : String :=
  match f.position with
  | some n => f.problem.message ++ " at DER byte " ++ toString n
  | none => f.problem.message

def within (f : Fault) (position : Nat) : Fault :=
  { f with position := some (position + f.position.getD 0) }

end Fault

end PodProbe.Der
