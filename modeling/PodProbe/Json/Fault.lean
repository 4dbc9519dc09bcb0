import PodProbe.Bytes
import PodProbe.Double.Shortest
import PodProbe.Text.Literal

/-!
This module contains the reasons for which a JSON text is refused, and their wording with the place in the text.
-/

namespace PodProbe.Json

inductive Unexpected where
  | null
  | bool (b : Bool)
  | int (n : Int)
  | real (d : Double)
  | str (s : String)
  | sequence
  | map
deriving DecidableEq, Repr

def Unexpected.message : Unexpected → String
  | null => "null"
  | bool b => "boolean `" ++ toString b ++ "`"
  | int n => "integer `" ++ toString n ++ "`"
  | real d => "floating point `" ++ d.toText ++ "`"
  | str s => "string " ++ Text.literal s
  | sequence => "sequence"
  | map => "map"

inductive Cause where
  | endInValue
  | endInList
  | endInObject
  | endInString
  | expectedColon
  | expectedListCommaOrEnd
  | expectedObjectCommaOrEnd
  | expectedIdent
  | expectedValue
  | trailingComma
  | trailingCharacters
  | keyMustBeString
  | invalidNumber
  | numberOutOfRange
  | invalidEscape
  | endOfHexEscape
  | loneSurrogate
  | controlCharacter
  | tooDeep
  | wrongType (found : Unexpected) (wanted : String)
  | wrongValue (found : Unexpected) (wanted : String)
  | wrongLength (found : Nat) (wanted : String)
  | duplicateField (name : String)
deriving DecidableEq, Repr

def Cause.message : Cause → String
  | endInValue => "EOF while parsing a value"
  | endInList => "EOF while parsing a list"
  | endInObject => "EOF while parsing an object"
  | endInString => "EOF while parsing a string"
  | expectedColon => "expected `:`"
  | expectedListCommaOrEnd => "expected `,` or `]`"
  | expectedObjectCommaOrEnd => "expected `,` or `\x7d`"
  | expectedIdent => "expected ident"
  | expectedValue => "expected value"
  | trailingComma => "trailing comma"
  | trailingCharacters => "trailing characters"
  | keyMustBeString => "key must be a string"
  | invalidNumber => "invalid number"
  | numberOutOfRange => "number out of range"
  | invalidEscape => "invalid escape"
  | endOfHexEscape => "unexpected end of hex escape"
  | loneSurrogate => "lone leading surrogate in hex escape"
  | controlCharacter => "control character (\\u0000-\\u001F) found while parsing a string"
  | tooDeep => "recursion limit exceeded"
  | wrongType found wanted => "invalid type: " ++ found.message ++ ", expected " ++ wanted
  | wrongValue found wanted => "invalid value: " ++ found.message ++ ", expected " ++ wanted
  | wrongLength found wanted => "invalid length " ++ toString found ++ ", expected " ++ wanted
  | duplicateField name => "duplicate field `" ++ name ++ "`"

/-- A cause with the number of bytes of the text that come after the place where it arose. -/
structure Fault where
  cause : Cause
  left : Nat
deriving DecidableEq, Repr

def byteCount (cs : List Char) : Nat :=
  cs.foldl (fun n c => n + c.utf8Size) 0

/-- What is said of a fault. Lines count from one, and the column is the number of bytes since the last line feed. -/
def Fault.message (text : List Char) (f : Fault) : String :=
  let bytes := Bytes.ofChars text
  let read := bytes.take (bytes.length - f.left)
  let line := read.count 10 + 1
  let column := (read.reverse.takeWhile (· != 10)).length
  f.cause.message ++ " at line " ++ toString line ++ " column " ++ toString column

end PodProbe.Json
