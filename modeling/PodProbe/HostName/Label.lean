import PodProbe.Url.Domain

/-!
This module contains the labels of the names that a resolver may be asked for. A label is mapped and normalized as in
domain names of URLs, but the stricter rules apply: of ASCII it holds letters, digits and hyphens only, letters that
were mapped differently in the past are mapped as in the past, and it is neither empty nor too long.
-/

namespace PodProbe.HostName

inductive LabelFlaw where
  | punycode
  | directions
  | startsWithMark
  | unmapped
  | notNormal
  | plainCharacter
  | plainReplacement
  | disallowed
  | tooLong
  | tooShort
deriving DecidableEq, Repr

namespace LabelFlaw

def all : List LabelFlaw :=
  [punycode, directions, startsWithMark, unmapped, notNormal, plainCharacter, plainReplacement, disallowed, tooLong,
   tooShort]

def text : LabelFlaw → String
  | punycode => "punycode"
  | directions => "check_bidi"
  | startsWithMark => "start_combining_mark"
  | unmapped => "invalid_mapping"
  | notNormal => "nfc"
  | plainCharacter => "disallowed_by_std3_ascii_rules"
  | plainReplacement => "disallowed_mapped_in_std3"
  | disallowed => "disallowed_character"
  | tooLong => "too_long_for_dns"
  | tooShort => "too_short_for_dns"

def describe (found : List LabelFlaw) : String :=
  "Errors \x7b " ++ ", ".intercalate ((all.filter found.contains).map text) ++ " \x7d"

end LabelFlaw

/-! ### Mapping -/

def formerMappings : List (Char × List Char) :=
  [('\u00df', ['s', 's']), ('\u03c2', ['\u03c3']), ('\u200c', []), ('\u200d', [])]

def struckSigns : List Char :=
  ['\u2260', '\u226e', '\u226f']

def isForbiddenPlain (c : Char) : Bool :=
  if c.toNat < 0x80 then !(c.isLower || c.isDigit || c == '-' || c == '.') else struckSigns.contains c

def mapChar (c : Char) : List Char × List LabelFlaw :=
  match formerMappings.lookup c with
  | some cs => (cs, [])
  | none =>
    match Unicode.mapped? c with
    | none => ([c], [.disallowed])
    | some cs =>
      if cs == [c] then ([c], if isForbiddenPlain c then [.plainCharacter] else [])
      else (cs, if cs.any isForbiddenPlain then [.plainReplacement] else [])

/-! ### Checks -/

/-- Whether a character may stand in a mapped label, where the former mappings leave nothing behind. -/
def mayStay (former : Bool) (c : Char) : Bool :=
  Unicode.staysMapped c && !isForbiddenPlain c && !(former && (formerMappings.lookup c).isSome)

def partFlaws (former : Bool) (cs : List Char) : List LabelFlaw :=
  if cs.head?.any Unicode.isMark then [.startsWithMark]
  else if cs.all (mayStay former) then []
  else [.unmapped]

structure Survey where
  flaws : List LabelFlaw
  parts : List (List Char) := []
  mixed : Bool := false

/-- Looks at one more part. What is encoded is only looked at closely if nothing is wrong so far. -/
def Survey.add (s : Survey) (cs : List Char) : Survey :=
  if Url.acePrefix.isPrefixOf cs then
    match Url.Punycode.decode? (cs.drop Url.acePrefix.length) with
    | none => { flaws := s.flaws ++ [.punycode], parts := s.parts ++ [[]], mixed := true }
    | some part =>
      let found :=
        if !s.flaws.isEmpty then []
        else if Unicode.normalize part != part then [.notNormal]
        else partFlaws false part
      { flaws := s.flaws ++ found, parts := s.parts ++ [part], mixed := s.mixed || Url.isRightToLeft part }
  else
    { flaws := s.flaws ++ partFlaws true cs, parts := s.parts ++ [cs], mixed := s.mixed || Url.isRightToLeft cs }

def survey (cs : List Char) : Survey :=
  let mapped := cs.map mapChar
  let s : Survey := { flaws := mapped.flatMap (·.2) }
  (Url.splitLabels (Unicode.normalize (mapped.flatMap (·.1)))).foldl Survey.add s

def longestLabel : Nat := 63

def writePart (cs : List Char) : List Char :=
  if Url.isAscii cs then cs else Url.acePrefix ++ Url.Punycode.encode cs

/-- A single dot at the end does not make a part of its own. -/
def withoutLastDot (parts : List (List Char)) : List (List Char) :=
  if parts.getLast? = some [] then parts.dropLast else parts

def labelToAscii (cs : List Char) : Except (List LabelFlaw) (List Char) :=
  let s := survey cs
  let written := s.parts.map writePart
  let counted := withoutLastDot written
  let flaws := s.flaws
    ++ (if s.mixed && !s.parts.all Url.directionsFit then [.directions] else [])
    ++ (if counted.isEmpty || counted.any List.isEmpty then [.tooShort] else [])
    ++ (if counted.any fun l => longestLabel < l.length then [.tooLong] else [])
  if flaws.isEmpty then .ok (Url.joinLabels written) else .error flaws

end PodProbe.HostName
