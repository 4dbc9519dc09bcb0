import PodProbe.Bytes.Line
import PodProbe.Text.Ascii
import PodProbe.Text.Base64
import PodProbe.Text.Blank

/-!
This module contains the reading of blocks of binary data in text: the lines between one that begins a block and one
that ends it are base 64. Lines outside of blocks do not matter, and neither does the label that ends a block.
-/

namespace PodProbe.Pem

structure Block where
  label : String
  contents : Bytes
deriving DecidableEq, Repr

inductive Fault where
  /-- The line that should begin a block has no dashes after the label. -/
  | header
  | incomplete
  | base64
  | notText
deriving DecidableEq, Repr

def Fault.message : Fault → String
  | header => "invalid header"
  | incomplete => "incomplete PEM"
  | base64 => "base64 decode error"
  | notText => "IO error: stream did not contain valid UTF-8"

def beginMarker : List Char := "-----BEGIN ".toList

def endMarker : List Char := "-----END ".toList

def dashes : List Char := "-----".toList

def label? (line : List Char) : Option String :=
  let rest := line.drop beginMarker.length
  if Text.occursIn dashes rest then some (String.ofList (rest.takeWhile (· != '-'))) else none

/-- A block whose line that ends it has not been met yet. -/
structure OpenBlock where
  label : String
  text : List Char := []

def ofLines (current : Option OpenBlock) : List Bytes → List (Except Fault Block)
  | [] => if current.isSome then [.error .incomplete] else []
  | line :: lines =>
    match Bytes.toChars? line with
    | none => .error .notText :: ofLines none lines
    | some cs =>
      match current with
      | none =>
        if beginMarker.isPrefixOf cs then
          match label? cs with
          | some label => ofLines (some { label }) lines
          | none => .error .header :: ofLines none lines
        else ofLines none lines
      | some b =>
        if endMarker.isPrefixOf cs then
          match Text.Base64.decode? b.text with
          | some contents => .ok { label := b.label, contents } :: ofLines none lines
          | none => .error .base64 :: ofLines none lines
        else ofLines (some { b with text := b.text ++ Text.trimRight cs }) lines

def ofBytes (bs : Bytes) : List (Except Fault Block) :=
  ofLines none (Bytes.lines bs)

end PodProbe.Pem
