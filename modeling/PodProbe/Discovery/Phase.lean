import PodProbe.Configuration
import PodProbe.Narration
import PodProbe.Token

/-!
This module contains phases, the parts of a discovery. They share what was found so far, each attempt that they make
is told on the terminal, and the certificates of all attempts are kept.
-/

namespace PodProbe.Discovery

open Journaled

structure Findings where
  configuration : Configuration := {}
  tokens : Tokens := {}
  store : TokenStore := []

namespace Findings

def absorb (f : Findings) (p : Probe) : Findings :=
  { f with configuration.certificates := f.configuration.certificates.absorb p }

def absorbAll (f : Findings) (ps : List Probe) : Findings :=
  { f with configuration.certificates := f.configuration.certificates.absorbAll ps }

/-- Takes in a token, which is handed over at once. -/
def obtain (f : Findings) (hostname : String) (kind : TokenKind) (value : String) : Findings :=
  { f with tokens := f.tokens.insert kind value, store := f.store.put hostname kind.headerName value }

end Findings

abbrev Phase := StateT Findings Journaled

def configure (change : Configuration → Configuration) : Phase Unit :=
  modify fun f => { f with configuration := change f.configuration }

def attempt (e : Executor) (p : Probe) : Phase Probe := do
  let p ← exchange e p
  modify (·.absorb p)
  print (Narration.attempt p)
  return p

def scan (e : Executor) (title : String) (validate : Probe → Bool) (candidates : List Probe) : Phase Scan := do
  let scan ← Scan.runJournaled title e (fun p => (validate p, p)) candidates
  modify (·.absorbAll scan.probes)
  print (Narration.attempts scan.probes)
  return scan

def conclude (what : String) (o : Outcome) : Phase (Option String) := do
  print (Narration.conclusion what o)
  return o.url?

def warnPayload (what : String) (p : Probe) : Phase Unit :=
  log .warn ("unexpected " ++ what ++ " payload from " ++ p.url ++ ": " ++ p.body.getD "")

end PodProbe.Discovery
