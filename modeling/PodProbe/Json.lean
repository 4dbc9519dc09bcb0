import PodProbe.Double

/-!
This module contains the values of JSON. An object lists its members in the order of their keys, each key once.
-/

namespace PodProbe

inductive Json where
  | null
  | bool (b : Bool)
  | int (n : Int)
  | real (d : Double)
  | str (s : String)
  | arr (items : List Json)
  | obj (members : List (String × Json))
deriving Inhabited, Repr

namespace Json

def insertMember (key : String) (value : Json) : List (String × Json) → List (String × Json)
  | [] => [(key, value)]
  | (k, v) :: ms =>
    if key = k then (key, value) :: ms
    else if key < k then (key, value) :: (k, v) :: ms
    else (k, v) :: insertMember key value ms

def members? : Json → Option (List (String × Json))
  | obj ms => some ms
  | _ => none

def get? (j : Json) (key : String) : Option Json := do
  (← j.members?).lookup key

@[simp] theorem get?_obj (members : List (String × Json)) (key : String) : (obj members).get? key = members.lookup key := rfl

def str? : Json → Option String
  | str s => some s
  | _ => none

def bool? : Json → Option Bool
  | bool b => some b
  | _ => none

def leastInt : Int := -9223372036854775808

def greatestInt : Int := 9223372036854775807

end Json

end PodProbe
