import PodProbe.Url.Host

/-!
This module contains URLs and their text.
-/

namespace PodProbe

/-- What a URL says between its scheme and its path about where to go. -/
structure Authority where
  user : String := ""
  password : String := ""
  host : Option Url.Host
  /-- The port, unless it is the one that the scheme stands for. -/
  port : Option UInt16 := none
deriving DecidableEq, Repr

inductive UrlPath where
  /-- A path of which nothing is known, as the schemes have it that name no place. -/
  | plain (text : String)
  | rooted (segments : List String)
deriving DecidableEq, Repr

structure Url where
  scheme : String
  authority : Option Authority
  path : UrlPath
  query : Option String := none
  fragment : Option String := none
deriving DecidableEq, Repr

def Authority.credentials (a : Authority) : String :=
  if a.user.isEmpty && a.password.isEmpty then ""
  else a.user ++ (if a.password.isEmpty then "" else ":" ++ a.password) ++ "@"

def Authority.text (a : Authority) : String :=
  a.credentials ++ (a.host.map Url.Host.text).getD ""
    ++ match a.port with
      | some p => ":" ++ toString p.toNat
      | none => ""

def UrlPath.text : UrlPath → String
  | plain s => s
  | rooted segments => String.join (segments.map ("/" ++ ·))

namespace Url

/-- The host of a URL, unless it names none. -/
def host? (u : Url) : Option Host :=
  u.authority.bind Authority.host

def withoutCredentials (u : Url) : Url :=
  { u with authority := u.authority.map fun a => { a with user := "", password := "" } }

def pathText (u : Url) : String :=
  match u.authority, u.path with
  | none, .rooted ("" :: s :: segments) => "/." ++ (UrlPath.rooted ("" :: s :: segments)).text
  | _, path => path.text

def text (u : Url) : String :=
  u.scheme ++ ":"
    ++ (match u.authority with
      | some a => "//" ++ a.text
      | none => "")
    ++ u.pathText
    ++ (match u.query with
      | some q => "?" ++ q
      | none => "")
    ++ match u.fragment with
      | some f => "#" ++ f
      | none => ""

end Url

end PodProbe
