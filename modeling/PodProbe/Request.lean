import PodProbe.Json

/-!
This module contains the requests that a probe sends.
-/

namespace PodProbe

inductive Method where
  | get
  | post
deriving DecidableEq, Repr

def Method.text : Method → String
  | get => "GET"
  | post => "POST"

structure Request where
  method : Method := .get
  body : Option Json := none
  headers : List (String × String) := []
  cookies : List (String × String) := []
  expectedStatuses : List UInt16 := [200]
  expectedContentType : Option String := none

/-- All cookies in one header, unless there is none. -/
def Request.cookieHeader? (r : Request) : Option String :=
  if r.cookies.isEmpty then none
  else some ("; ".intercalate (r.cookies.map fun (name, value) => name ++ "=" ++ value))

end PodProbe
