import PodProbe.Options.Usage

/-!
This module contains what may be wrong with a command line.
-/

namespace PodProbe.Options

inductive Tip where
  | similar (s : Switch)
  /-- After two hyphens, no word is taken for a switch. -/
  | asValue
deriving DecidableEq, Repr

inductive Complaint where
  | missingValue (s : Switch)
  | repeated (s : Switch)
  | number (s : Switch) (value : String) (fault : Text.NumberFault)
  /-- A switch that takes no value was given one. -/
  | surplusValue (s : Switch) (value : String) (used : List Switch)
  | unexpected (word : String) (tip : Option Tip) (used : List Switch)
  | missingName (used : List Switch)
deriving DecidableEq, Repr

namespace Complaint

def cause : Complaint → String
  | missingValue s => "a value is required for '" ++ s.text ++ "' but none was supplied"
  | repeated s => "the argument '" ++ s.text ++ "' cannot be used multiple times"
  | number s value fault => "invalid value '" ++ value ++ "' for '" ++ s.text ++ "': " ++ fault.message
  | surplusValue s value _ => "unexpected value '" ++ value ++ "' for '" ++ s.text ++ "' found; no more were expected"
  | unexpected word _ _ => "unexpected argument '" ++ word ++ "' found"
  | missingName _ => "the following required arguments were not provided:\n  " ++ nameText

def usage? : Complaint → Option String
  | missingValue _ | number _ _ _ => none
  | repeated _ => some usage
  | surplusValue _ _ used | missingName used => some (usageWith used)
  | unexpected _ _ used => some (if used.isEmpty then usage else usageWith used)

def tip? : Complaint → Option String
  | unexpected _ (some (.similar s)) _ => some ("a similar argument exists: '--" ++ s.long ++ "'")
  | unexpected word (some .asValue) _ => some ("to pass '" ++ word ++ "' as a value, use '-- " ++ word ++ "'")
  | _ => none

def message (c : Complaint) : String :=
  let tip :=
    match c.tip? with
    | some t => "\n\n  tip: " ++ t
    | none => ""
  let usage :=
    match c.usage? with
    | some u => "\n\nUsage: " ++ u
    | none => ""
  "error: " ++ c.cause ++ tip ++ usage ++ "\n\nFor more information, try '--help'.\n"

end Complaint

end PodProbe.Options
