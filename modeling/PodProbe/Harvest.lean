import PodProbe.Certificate
import PodProbe.Probe

/-!
This module contains the certificates that were seen in the course of a run. Roots and server certificates are two
sets, listed in the order of their bytes and without repetitions.
-/

namespace PodProbe

structure Harvest where
  roots : List Certificate := []
  servers : List Certificate := []
deriving DecidableEq, Repr

namespace Harvest

def absorbChain (h : Harvest) (chain : List Certificate) : Harvest where
  roots := match chain.getLast? with
    | some c => c.insert h.roots
    | none => h.roots
  servers := match chain.head? with
    | some c => c.insert h.servers
    | none => h.servers

def absorb (h : Harvest) (p : Probe) : Harvest :=
  h.absorbChain p.chain

def absorbAll (h : Harvest) (ps : List Probe) : Harvest :=
  ps.foldl absorb h

def ofProbes (ps : List Probe) : Harvest :=
  absorbAll {} ps

def rootCount (h : Harvest) : Nat :=
  h.roots.length

def serverCount (h : Harvest) : Nat :=
  h.servers.length

def isEmpty (h : Harvest) : Bool :=
  h.roots.isEmpty && h.servers.isEmpty

end Harvest

end PodProbe
