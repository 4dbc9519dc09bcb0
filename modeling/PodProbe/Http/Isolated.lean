import PodProbe.Http.Network

/-!
This module contains the network of a machine that is cut off from all others. It has addresses, but no way leads from
it to any of them, and there is nobody who could be asked for a name.
-/

namespace PodProbe.Http

/-- The number of the error that there is no way to an address. -/
def unreachable : Int := 101

/-- The number of the error that there is no address to start from. -/
def noSource : Int := 99

def connectError : Url.Host → Int
  | .address6 [0, 0, 0, 0, 0, 0, 0, _] => noSource
  | _ => unreachable

def nested (labels : List String) (innermost : ErrorChain) : ErrorChain :=
  labels.foldr (fun l e => .text (l ++ ": " ++ e.message) (some e)) innermost

/-- The failure of a message that was not sent because there is no connection. -/
def noConnection (labels : List String) (innermost : ErrorChain) : RequestError where
  cause := some (nested ("error trying to connect" :: labels) innermost)
  connecting := true

/-! ### Names of servers -/

def longestServerName : Nat := 253

def longestServerLabel : Nat := 63

def isServerLabel (cs : List Char) : Bool :=
  cs.all (fun c => c.isAlphanum || c == '-' || c == '_') && !cs.isEmpty && cs.length ≤ longestServerLabel
    && cs.head? != some '-' && cs.getLast? != some '-'

/-- Whether a server can be asked for by a name. The name may end with a dot, and its last label is no number. -/
def isServerName (s : String) : Bool :=
  let labels := s.toList.splitOn '.'
  let labels := if labels.length > 1 && labels.getLast? == some [] then labels.dropLast else labels
  s.length ≤ longestServerName && labels.all isServerLabel && !labels.getLast?.any (·.all Char.isDigit)

/-! ### The network -/

/-- How a message to a URL fails. A name that no server can have is refused before anything else is tried. -/
def isolatedFailure (url : Url) : RequestError :=
  match url.host? with
  | some (.name s) =>
    if url.scheme == Scheme.https.text && !isServerName s then
      noConnection [] (.text "invalid dnsname" none)
    else if s == "localhost" then noConnection ["tcp connect error"] (.system unreachable)
    else
      noConnection ["dns error"]
        (.text "failed to lookup address information: Temporary failure in name resolution" none)
  | some a => noConnection ["tcp connect error"] (.system (connectError a))
  | none => noConnection [] (.system unreachable)

def isolated : Network where
  lookup host :=
    if host == "localhost" then .ok [.address4 0x7f000001]
    else .error ("proto error: io error: " ++ systemErrorText unreachable)
  send _ m := { ending := .error ((isolatedFailure m.url).at m.url) }

end PodProbe.Http
