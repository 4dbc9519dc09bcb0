import PodProbe.Text.Ascii

/-!
This module contains the headers of requests: what may stand in them, and the list in which they are sent.
-/

namespace PodProbe.Http

def nameSigns : List Char :=
  ['!', '#', '$', '%', '&', '\x27', '*', '+', '-', '.', '^', '_', '\x60', '|', '~']

def longestHeaderName : Nat := 65535

def isHeaderName (s : String) : Bool :=
  let cs := s.toList
  !cs.isEmpty && cs.all (fun c => c.isAlphanum || nameSigns.contains c) && cs.length ≤ longestHeaderName

/-- Any text without control characters, of which only the tab is left out. -/
def isHeaderValue (s : String) : Bool :=
  s.toList.all fun c => c == '\t' || (0x20 ≤ c.toNat && c.toNat != 0x7f)

abbrev Headers := List (String × String)

namespace Headers

def names (name : String) (hs : Headers) : Bool :=
  hs.any (·.1 == name)

def append (hs : Headers) (name value : String) : Headers :=
  let name := String.ofList (Text.lower name.toList)
  let (after, before) := hs.reverse.span (·.1 != name)
  if before.isEmpty then hs ++ [(name, value)] else before.reverse ++ (name, value) :: after.reverse

/-- Adds a header unless there is one of its name. -/
def default (hs : Headers) (name value : String) : Headers :=
  if names name hs then hs else hs ++ [(name, value)]

end Headers

end PodProbe.Http
