import PodProbe.Options.Complaint
import PodProbe.Text.Similar

/-!
This module contains the reading of command lines, word by word. What a word is taken for depends on the words before
it. The value of a switch is only looked at when the next switch or name is met, so a word that makes no sense at all
is complained about earlier than a wrong value in front of it.
-/

namespace PodProbe.Options

/-- What a command line amounts to if not to a run. -/
inductive Stop where
  | help
  | version
  | complaint (c : Complaint)
deriving DecidableEq, Repr

/-- What was met last and is not looked at yet. -/
inductive Pending where
  | name (text : String)
  | switch (s : Switch) (value : Option String)
deriving DecidableEq, Repr

structure Reading where
  given : List (Switch × SwitchValue) := []
  name : Option String := none
  pending : Option Pending := none
  /-- Whether all that follows is taken for a name, whatever it looks like. -/
  plain : Bool := false

/-- The number that no count of milliseconds reaches. -/
def timeBound : Nat := 1 <<< 64

/-- Reads the value of a switch. A path is not empty. -/
def readValue (s : Switch) (value : String) : Except Stop SwitchValue :=
  match s.kind with
  | .nothing => .ok .on
  | .text => .ok (.text value)
  | .path => if value.isEmpty then .error (.complaint (.missingValue s)) else .ok (.text value)
  | .number =>
    match Text.naturalBelow timeBound value.toList with
    | .ok n => .ok (.number n)
    | .error fault => .error (.complaint (.number s value fault))

namespace Reading

def used (r : Reading) : List Switch :=
  r.given.map (·.1)

/-- Takes a switch with its value, which it must not have had before. -/
def give (r : Reading) (s : Switch) (value : Option String) : Except Stop Reading := do
  if s.takesValue && value.isNone then throw (.complaint (.missingValue s))
  if r.used.contains s then throw (.complaint (.repeated s))
  return { r with given := r.given ++ [(s, ← readValue s (value.getD ""))] }

def settle (r : Reading) : Except Stop Reading :=
  match r.pending with
  | none => .ok r
  | some (.name text) => .ok { r with name := some text, pending := none }
  | some (.switch s value) => give { r with pending := none } s value

/-- Takes a switch that has no value. -/
def turnOn (r : Reading) (s : Switch) : Except Stop Reading := do
  let r ← r.settle
  match s with
  | .help => throw .help
  | .version => throw .version
  | s => r.give s none

def expect (r : Reading) (s : Switch) (attached : Option String) : Except Stop Reading := do
  let r ← r.settle
  match attached with
  | some value => r.give s (some value)
  | none => return { r with pending := some (.switch s none) }

def readLong (r : Reading) (name : String) (attached : Option String) : Except Stop Reading :=
  match Switch.ofLong? name with
  | none =>
    match (Text.mostSimilar? name (Switch.all.map Switch.long)).bind Switch.ofLong? with
    | some s => .error (.complaint (.unexpected ("--" ++ name) (some (.similar s)) (r.used ++ [s])))
    | none => .error (.complaint (.unexpected ("--" ++ name) (some .asValue) r.used))
  | some s =>
    if s.takesValue then r.expect s attached
    else
      match attached with
      | some value => .error (.complaint (.surplusValue s value (r.used ++ [s])))
      | none => r.turnOn s

def attachedValue : List Char → Option String
  | [] => none
  | '=' :: cs => some (String.ofList cs)
  | cs => some (String.ofList cs)

def readShort (r : Reading) : List Char → Except Stop Reading
  | [] => .ok r
  | c :: cs =>
    match Switch.ofShort? c with
    | none => .error (.complaint (.unexpected ("-" ++ String.singleton c) (some .asValue) []))
    | some s =>
      if s.takesValue then r.expect s (attachedValue cs)
      else
        match r.turnOn s with
        | .ok r => readShort r cs
        | .error e => .error e

def hasName (r : Reading) : Bool :=
  match r.pending with
  | some (.name _) => true
  | _ => r.name.isSome

def readName (r : Reading) (word : String) : Except Stop Reading := do
  if r.hasName then throw (.complaint (.unexpected word none []))
  let r ← r.settle
  return { r with pending := some (.name word) }

def splitAttached (cs : List Char) : String × Option String :=
  match cs.dropWhile (· != '=') with
  | [] => (String.ofList cs, none)
  | _ :: value => (String.ofList (cs.takeWhile (· != '=')), some (String.ofList value))

def readWord (r : Reading) (word : String) : Except Stop Reading :=
  if r.plain then r.readName word
  else
    match word.toList with
    | ['-', '-'] => .ok { r with plain := true }
    | '-' :: '-' :: cs =>
      let (name, attached) := splitAttached cs
      r.readLong name attached
    | '-' :: c :: cs => r.readShort (c :: cs)
    | _ =>
      match r.pending with
      | some (.switch s none) => .ok { r with pending := some (.switch s (some word)) }
      | _ => r.readName word

def finish (r : Reading) : Except Stop Options := do
  let r ← r.settle
  match r.name with
  | none => throw (.complaint (.missingName r.used))
  | some name =>
    let o : Options := { name }
    return r.given.foldl (fun o (s, v) => o.set s v) o

end Reading

def read (words : List String) : Except Stop Options := do
  let r ← words.foldlM Reading.readWord {}
  r.finish

end PodProbe.Options
