import PodProbe.Json
import PodProbe.Bytes
import PodProbe.Double.Shortest

/-!
This module contains the text of a JSON value, without any blank space between its tokens.
-/

namespace PodProbe.Json

def escape (c : Char) : List Char :=
  if c = '"' then ['\\', '"']
  else if c = '\\' then ['\\', '\\']
  else if c = '\x08' then ['\\', 'b']
  else if c = '\x0c' then ['\\', 'f']
  else if c = '\n' then ['\\', 'n']
  else if c = '\r' then ['\\', 'r']
  else if c = '\t' then ['\\', 't']
  else if c.toNat < 0x20 then
    ['\\', 'u', '0', '0', Bytes.hexDigit (c.toNat / 16), Bytes.hexDigit (c.toNat % 16)]
  else [c]

def quoted (s : String) : List Char :=
  '"' :: s.toList.flatMap escape ++ ['"']

def commas : List (List Char) → List Char
  | [] => []
  | [x] => x
  | x :: xs => x ++ ',' :: commas xs

mutual

def chars : Json → List Char
  | null => ['n', 'u', 'l', 'l']
  | bool true => ['t', 'r', 'u', 'e']
  | bool false => ['f', 'a', 'l', 's', 'e']
  | int n => (toString n).toList
  | real d => d.toText.toList
  | str s => quoted s
  | arr items => '[' :: commas (itemChars items) ++ [']']
  | obj members => '\x7b' :: commas (memberChars members) ++ ['\x7d']

def itemChars : List Json → List (List Char)
  | [] => []
  | j :: js => chars j :: itemChars js

def memberChars : List (String × Json) → List (List Char)
  | [] => []
  | (k, j) :: ms => (quoted k ++ ':' :: chars j) :: memberChars ms

end

def toText (j : Json) : String :=
  String.ofList j.chars

end PodProbe.Json
