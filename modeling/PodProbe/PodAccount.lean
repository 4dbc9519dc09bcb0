import PodProbe.Double.Shortest
import PodProbe.Json
import PodProbe.Text.Integer

/-!
This module contains what a pod tells about the account of a session and about itself. Identifiers may be written as
numbers or as texts.
-/

namespace PodProbe

structure SessionIdentity where
  displayName : Option String := none
  id : Option String := none
  company : Option String := none
deriving DecidableEq, Repr

def identifierText? : Json → Option String
  | .str s => some s
  | .int n => some (toString n)
  | .real d => some d.toText
  | _ => none

def SessionIdentity.ofJson? (j : Json) : Option SessionIdentity := do
  let members ← j.members?
  let text (key : String) : Option String := (members.lookup key).bind identifierText?
  return { displayName := text "displayName", id := text "id", company := text "company" }

structure PodInfo where
  podId : Option Int := none
  keyManagerUrl : Option String := none
deriving DecidableEq, Repr

def inWord (n : Int) : Option Int :=
  if Json.leastInt ≤ n ∧ n ≤ Json.greatestInt then some n else none

def identifierNumber? : Json → Option Int
  | .int n => inWord n
  | .str s => (Text.integer? s.toList).bind inWord
  | _ => none

def PodInfo.ofJson? (j : Json) : Option PodInfo := do
  let data ← (← j.get? "data").members?
  return {
    podId := (data.lookup "podId").bind identifierNumber?
    keyManagerUrl := (data.lookup "keyManagerUrl").bind Json.str? }

end PodProbe
