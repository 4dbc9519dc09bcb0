import PodProbe.Scan

/-!
This module contains what a scan makes of its candidates: each of them is attempted once, in order, and taken in as
the validation has left it.
-/

namespace PodProbe

namespace Scan

variable (e : Executor) (validate : Probe → Bool × Probe)

def settled (p : Probe) : Probe :=
  if p.isFailed then p
  else if (validate p).1 then (validate p).2.markValid.2
  else (validate p).2

theorem settle_pure (p : Probe)
    : settle (fun p => (pure (validate p) : Journaled _)) p = pure (settled validate p) := by
  unfold settle settled
  split
  . rfl
  . rw [pure_bind]

theorem value_step (s : Scan) (p : Probe)
    : (step (Journaled.exchange e) (fun p => pure (validate p)) s p).value
        =
      s.add (settled validate (e.execute p)) := by
  simp [step, settle_pure]

theorem exchanges_step (s : Scan) (p : Probe)
    : (step (Journaled.exchange e) (fun p => pure (validate p)) s p).journal.exchanges = [e.exchange p] := by
  simp [step, settle_pure]

theorem value_foldlM_step (s : Scan) (ps : List Probe)
    : (ps.foldlM (step (Journaled.exchange e) (fun p => pure (validate p))) s).value
        =
      (ps.map fun p => settled validate (e.execute p)).foldl add s := by
  induction ps generalizing s with
  | nil => rfl
  | cons p ps ih =>
    rw [List.foldlM_cons, Journaled.value_bind, ih, value_step]
    rfl

theorem exchanges_foldlM_step (s : Scan) (ps : List Probe)
    : (ps.foldlM (step (Journaled.exchange e) (fun p => pure (validate p))) s).journal.exchanges
        =
      ps.map e.exchange := by
  induction ps generalizing s with
  | nil => rfl
  | cons p ps ih =>
    rw [List.foldlM_cons, Journaled.journal_bind, Journal.exchanges_append, exchanges_step, ih]
    rfl

def ofAttempts (name : String) (ps : List Probe) : Scan :=
  (ps.map fun p => settled validate (e.execute p)).foldl add { name }

@[simp]
theorem value_runJournaled (name : String) (ps : List Probe)
    : (runJournaled name e validate ps).value = ofAttempts e validate name ps := by
  unfold runJournaled run
  rw [Journaled.value_bind, Journaled.value_bind, value_foldlM_step]
  rfl

@[simp]
theorem exchanges_runJournaled (name : String) (ps : List Probe)
    : (runJournaled name e validate ps).journal.exchanges = ps.map e.exchange := by
  unfold runJournaled run
  rw [Journaled.journal_bind, Journal.exchanges_append, exchanges_foldlM_step]
  simp

end Scan

end PodProbe
