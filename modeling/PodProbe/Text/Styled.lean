/-!
This module contains text for a terminal, in which single passages may be coloured, and the padding of its columns.
-/

namespace PodProbe.Text

inductive Tint where
  | green
  | red
  | yellow
  | dimmed
deriving DecidableEq, Repr

def Tint.code : Tint → String
  | green => "32"
  | red => "31"
  | yellow => "33"
  | dimmed => "2"

structure Span where
  text : String
  tint : Option Tint := none
deriving DecidableEq, Repr

abbrev Styled := List Span

instance : Coe String Span := ⟨fun s => { text := s }⟩

def Tint.span (t : Tint) (text : String) : Span :=
  { text, tint := some t }

def Tint.start (t : Tint) : List Char :=
  '\x1b' :: '[' :: t.code.toList ++ ['m']

def tintEnd : List Char :=
  ['\x1b', '[', '0', 'm']

def Tint.resume (t : Tint) : List Char → List Char
  | '\x1b' :: '[' :: '0' :: 'm' :: cs => tintEnd ++ t.start ++ resume t cs
  | c :: cs => c :: resume t cs
  | [] => []

/-- A tinted passage stands between the two sequences that start and end its tint, unless colours are off. -/
def Span.render (color : Bool) (s : Span) : String :=
  match s.tint with
  | some t => if color then String.ofList (t.start ++ t.resume s.text.toList ++ tintEnd) else s.text
  | none => s.text

def Styled.render (color : Bool) (s : Styled) : String :=
  String.join (s.map (Span.render color))

def line (spans : List Span) : Styled :=
  spans ++ [{ text := "\n" }]

def pad (width : Nat) (s : String) : String :=
  s ++ String.ofList (List.replicate (width - s.length) ' ')

end PodProbe.Text
