import PodProbe.Journal

/-!
This module contains scans: the probes of the candidates for one thing that is looked for, and the conclusion that
they allow.
-/

namespace PodProbe

structure Scan where
  name : String
  probes : List Probe := []
  successfulAt : List Nat := []
  validAt : List Nat := []
  /-- The position of the valid probe, as long as there is only one. -/
  choice : Option Nat := none
  certAuthAt : List Nat := []

inductive Outcome where
  | found (p : Probe)
  /-- The only candidate that asks for a client certificate. -/
  | probable (p : Probe)
  | possible (ps : List Probe)
  /-- Several candidates are valid, so that none is preferred. -/
  | ambiguous (ps : List Probe)
  | notFound

def Outcome.url? : Outcome → Option String
  | found p => some p.baseUrl
  | probable p => some p.baseUrl
  | _ => none

namespace Scan

def add (s : Scan) (p : Probe) : Scan :=
  let position := s.probes.length
  let validAt := if p.isValid then s.validAt ++ [position] else s.validAt
  { s with
    probes := s.probes ++ [p]
    successfulAt := if p.isFailed then s.successfulAt else s.successfulAt ++ [position]
    validAt
    choice := if p.isValid then (if validAt.length = 1 then some position else none) else s.choice
    certAuthAt := if p.isFailedCertAuth then s.certAuthAt ++ [position] else s.certAuthAt }

def pick (s : Scan) (positions : List Nat) : List Probe :=
  positions.filterMap (s.probes[·]?)

def successful (s : Scan) : List Probe :=
  s.pick s.successfulAt

def valid (s : Scan) : List Probe :=
  s.pick s.validAt

def certAuth (s : Scan) : List Probe :=
  s.pick s.certAuthAt

def validProbe? (s : Scan) : Option Probe :=
  s.choice.bind (s.probes[·]?)

def outcome (s : Scan) : Outcome :=
  match s.validProbe?, s.certAuth with
  | some p, _ => .found p
  | none, [p] => .probable p
  | none, p :: ps => .possible (p :: ps)
  | none, [] => if 1 < s.validAt.length then .ambiguous s.valid else .notFound

/-- Lets `validate` decide on an attempt that did not fail. -/
def settle {m : Type → Type} [Monad m] (validate : Probe → m (Bool × Probe)) (p : Probe) : m Probe := do
  if p.isFailed then return p
  else
    let (accepted, p) ← validate p
    return if accepted then p.markValid.2 else p

def step {m : Type → Type} [Monad m] (execute : Probe → m Probe) (validate : Probe → m (Bool × Probe))
    (s : Scan) (p : Probe) : m Scan := do
  let p ← execute p
  return s.add (← settle validate p)

def run {m : Type → Type} [Monad m] (name : String) (execute : Probe → m Probe)
    (validate : Probe → m (Bool × Probe)) (candidates : List Probe) : m Scan :=
  candidates.foldlM (step execute validate) { name }

def tally (s : Scan) : String :=
  "scan " ++ s.name ++ ": " ++ toString s.probes.length ++ " probes, " ++ toString s.successfulAt.length
    ++ " successful, " ++ toString s.validAt.length ++ " valid, " ++ toString s.certAuthAt.length ++ " cert-auth"

def runJournaled (name : String) (e : Executor) (validate : Probe → Bool × Probe)
    (candidates : List Probe) : Journaled Scan := do
  let scan ← run name (Journaled.exchange e) (fun p => pure (validate p)) candidates
  Journaled.log .debug scan.tally
  return scan

@[simp] theorem name_add (s : Scan) (p : Probe) : (s.add p).name = s.name := rfl

@[simp] theorem probes_add (s : Scan) (p : Probe) : (s.add p).probes = s.probes ++ [p] := rfl

end Scan

end PodProbe
