import PodProbe.Url.Address
import PodProbe.Url.Domain

/-!
This module contains the hosts that URLs name, and the reasons for which a URL is refused.
-/

namespace PodProbe.Url

/-- Why a text is no URL. -/
inductive Refusal where
  | emptyHost
  | domain
  | port
  | address4
  | address6
  | hostCharacter
  /-- The text has no scheme, so it would need a URL that it is relative to. -/
  | relative
deriving DecidableEq, Repr

def Refusal.message : Refusal → String
  | emptyHost => "empty host"
  | domain => "invalid international domain name"
  | port => "invalid port number"
  | address4 => "invalid IPv4 address"
  | address6 => "invalid IPv6 address"
  | hostCharacter => "invalid domain character"
  | relative => "relative URL without a base"

inductive Host where
  | name (text : String)
  | address4 (n : Nat)
  | address6 (pieces : List Nat)
deriving DecidableEq, Repr

namespace Host

def text : Host → String
  | name s => s
  | address4 n => writeAddress4 n
  | address6 pieces => "[" ++ writeAddress6 pieces ++ "]"

def readBracketed (cs : List Char) : Except Refusal Host :=
  if cs.getLast? = some ']' then
    match readAddress6? cs.dropLast with
    | some pieces => .ok (address6 pieces)
    | none => .error .address6
  else .error .address6

def read : List Char → Except Refusal Host
  | '[' :: cs => readBracketed cs
  | cs =>
    match (Bytes.toChars? (percentDecode cs)).bind domainToAscii? with
    | none => .error .domain
    | some [] => .error .emptyHost
    | some ascii =>
      if endsInNumber ascii then
        match readAddress4? ascii with
        | some n => .ok (address4 n)
        | none => .error .address4
      else .ok (name (String.ofList ascii))

/-- The characters that no host holds, whatever the scheme. -/
def isForbidden (c : Char) : Bool :=
  ['\x00', '\t', '\n', '\r', ' ', '#', '/', ':', '<', '>', '?', '@', '[', '\\', ']', '^', '|'].contains c

/-- Reads the host of any other scheme, of which nothing is known but that it may be missing. -/
def readUnknown? : List Char → Except Refusal (Option Host)
  | '[' :: cs => (readBracketed cs).map some
  | [] => .ok none
  | cs =>
    if cs.any isForbidden then .error .hostCharacter
    else .ok (some (name (String.ofList (percentEncode isControl cs))))

end Host

end PodProbe.Url
