import PodProbe.Proofs.Probe.History
import PodProbe.Proofs.Scan.Position

/-!
This module contains scans whose attempts and validations may do whatever can be done to a probe, and may depend on
all that happened before them. Each candidate still has exactly one turn, in order, in which it is validated if and
only if the attempt did not fail, and no probe that has failed is ever listed as valid. A candidate that was valid
beforehand is listed as well, unless its turn has made that void.
-/

namespace PodProbe

namespace Scan

open Probe (Operation)

/-- What attempts and validations do to a probe, in a world that they share and change. -/
structure Conduct (σ : Type) where
  attempt : σ → Probe → List Operation × σ
  validation : σ → Probe → Bool × List Operation × σ

inductive Call where
  | attempt (p : Probe)
  | validation (p : Probe)

structure Trace (σ : Type) where
  world : σ
  calls : List Call := []

/-- What happens to one candidate, where a failed attempt is left as it is and not accepted. -/
structure Turn where
  candidate : Probe
  operations : List Operation
  attempted : Probe
  accepted : Bool
  left : Probe

namespace Turn

def calls (t : Turn) : List Call :=
  .attempt t.candidate :: if t.attempted.isFailed then [] else [.validation t.attempted]

def kept (t : Turn) : Probe :=
  if t.accepted then t.left.markValid.2 else t.left

/-- Whether a probe was accepted and did not fail in being validated. -/
def isValid (t : Turn) : Bool :=
  t.accepted && !t.left.isFailed

/-- Whether a probe was valid before its turn and nothing has made that void. -/
def staysValid (t : Turn) : Bool :=
  t.candidate.isValid && !t.operations.any Operation.startsOver

end Turn

namespace Conduct

variable {σ : Type} (c : Conduct σ)

def execute (p : Probe) : StateM (Trace σ) Probe := fun trace =>
  let (ops, world) := c.attempt trace.world p
  (p.after ops, { world, calls := trace.calls ++ [.attempt p] })

def validate (p : Probe) : StateM (Trace σ) (Bool × Probe) := fun trace =>
  let (accepted, ops, world) := c.validation trace.world p
  ((accepted, p.after ops), { world, calls := trace.calls ++ [.validation p] })

def attempted (world : σ) (p : Probe) : Probe :=
  p.after (c.attempt world p).1

def turn (world : σ) (p : Probe) : Turn × σ :=
  let attempted := c.attempted world p
  let operations := (c.attempt world p).1
  let world := (c.attempt world p).2
  if attempted.isFailed then ({ candidate := p, operations, attempted, accepted := false, left := attempted }, world)
  else
    let (accepted, ops, world) := c.validation world attempted
    ({ candidate := p, operations := operations ++ ops, attempted, accepted, left := attempted.after ops }, world)

def turns (world : σ) : List Probe → List Turn
  | [] => []
  | p :: ps => (c.turn world p).1 :: turns (c.turn world p).2 ps

/-- Whether nothing but the scan itself declares a probe valid. -/
structure Abstains : Prop where
  attempt : ∀ world p, .markValid ∉ (c.attempt world p).1
  validation : ∀ world p, .markValid ∉ (c.validation world p).2.1

/-- Whether each attempt records an outcome, so that nothing stays of an earlier one. -/
def Records : Prop :=
  ∀ world p, ∃ op ∈ (c.attempt world p).1, op.startsOver

/-! ### One turn -/

section

variable {c} {world : σ} {p : Probe}

theorem turn_of_isFailed (h : (c.attempted world p).isFailed)
    : c.turn world p
        =
      let attempted := c.attempted world p
      let operations := (c.attempt world p).1
      ({ candidate := p, operations, attempted, accepted := false, left := attempted }, (c.attempt world p).2) :=
  if_pos h

theorem turn_of_not_isFailed (h : (c.attempted world p).isFailed = false)
    : c.turn world p
        =
      let attempted := c.attempted world p
      let (accepted, ops, later) := c.validation (c.attempt world p).2 attempted
      let operations := (c.attempt world p).1 ++ ops
      ({ candidate := p, operations, attempted, accepted, left := attempted.after ops }, later) :=
  if_neg (ne_true_of_eq_false h)

end

theorem candidate_turn (world : σ) (p : Probe) : (c.turn world p).1.candidate = p := by
  unfold turn
  dsimp only
  split <;> rfl

theorem run_execute (p : Probe) (trace : Trace σ)
    : (c.execute p).run trace
        =
      pure (c.attempted trace.world p,
        { world := (c.attempt trace.world p).2, calls := trace.calls ++ [.attempt p] }) :=
  rfl

theorem run_validate (p : Probe) (trace : Trace σ)
    : (c.validate p).run trace
        =
      let (accepted, ops, world) := c.validation trace.world p
      pure ((accepted, p.after ops), { world, calls := trace.calls ++ [.validation p] }) :=
  rfl

theorem run_step (scan : Scan) (p : Probe) (trace : Trace σ)
    : (step c.execute c.validate scan p).run trace
        =
      let (t, world) := c.turn trace.world p
      (scan.add t.kept, { world, calls := trace.calls ++ t.calls }) := by
  unfold step settle Turn.calls Turn.kept
  rw [StateT.run_bind, run_execute, pure_bind]
  dsimp only
  cases hfailed : (c.attempted trace.world p).isFailed with
  | true =>
    rw [turn_of_isFailed hfailed, if_pos rfl, pure_bind]
    dsimp only
    rw [hfailed, if_pos rfl]
    rfl
  | false =>
    rw [turn_of_not_isFailed hfailed, if_neg Bool.false_ne_true, bind_assoc, StateT.run_bind, run_validate, pure_bind]
    dsimp only
    rw [hfailed, if_neg Bool.false_ne_true, List.append_assoc]
    rfl

theorem run_foldlM_step (scan : Scan) (ps : List Probe) (trace : Trace σ)
    : let r := (ps.foldlM (step c.execute c.validate) scan).run trace
      r.1 = ((c.turns trace.world ps).map Turn.kept).foldl add scan
        ∧ r.2.calls = trace.calls ++ (c.turns trace.world ps).flatMap Turn.calls := by
  induction ps generalizing scan trace with
  | nil => exact ⟨rfl, (List.append_nil _).symm⟩
  | cons p ps ih =>
    rw [List.foldlM_cons, StateT.run_bind, run_step]
    obtain ⟨hscan, hcalls⟩ := ih (scan.add (c.turn trace.world p).1.kept)
      { world := (c.turn trace.world p).2, calls := trace.calls ++ (c.turn trace.world p).1.calls }
    refine ⟨hscan, hcalls.trans ?_⟩
    rw [turns, List.flatMap_cons, List.append_assoc]

theorem candidates_turns (world : σ) (ps : List Probe) : (c.turns world ps).map Turn.candidate = ps := by
  induction ps generalizing world with
  | nil => rfl
  | cons p ps ih => rw [turns, List.map_cons, candidate_turn, ih]

theorem exists_of_mem_turns {world : σ} {ps : List Probe} {t : Turn} (h : t ∈ c.turns world ps)
    : ∃ world, ∃ p ∈ ps, t = (c.turn world p).1 := by
  induction ps generalizing world with
  | nil => cases h
  | cons p ps ih =>
    rcases List.mem_cons.1 h with rfl | h
    . exact ⟨world, p, List.mem_cons_self, rfl⟩
    . obtain ⟨world, q, hq, rfl⟩ := ih h
      exact ⟨world, q, List.mem_cons_of_mem p hq, rfl⟩

/-! ### Validity -/

variable {c}

theorem consistent_kept {p : Probe} (h : p.Consistent) (world : σ) : (c.turn world p).1.kept.Consistent := by
  have hattempted : (c.attempted world p).Consistent := h.after _
  unfold Turn.kept
  cases hfailed : (c.attempted world p).isFailed with
  | true =>
    rw [turn_of_isFailed hfailed]
    exact hattempted
  | false =>
    rw [turn_of_not_isFailed hfailed]
    dsimp only
    split
    . exact (hattempted.after _).markValid
    . exact hattempted.after _

theorem isValid_markValid (p : Probe) : p.markValid.2.isValid = (p.isValid || !p.isFailed) := by
  unfold Probe.markValid
  cases hfailed : p.isFailed <;> simp

theorem left_turn (world : σ) (p : Probe)
    : (c.turn world p).1.left = (c.turn world p).1.candidate.after (c.turn world p).1.operations := by
  cases hfailed : (c.attempted world p).isFailed with
  | true =>
    rw [turn_of_isFailed hfailed]
    rfl
  | false =>
    rw [turn_of_not_isFailed hfailed]
    exact (List.foldl_append ..).symm

theorem not_mem_operations_turn (h : c.Abstains) (world : σ) (p : Probe)
    : .markValid ∉ (c.turn world p).1.operations := by
  cases hfailed : (c.attempted world p).isFailed with
  | true =>
    rw [turn_of_isFailed hfailed]
    exact h.attempt world p
  | false =>
    rw [turn_of_not_isFailed hfailed, List.mem_append, not_or]
    exact ⟨h.attempt world p, h.validation _ _⟩

theorem isValid_left (h : c.Abstains) (world : σ) (p : Probe)
    : (c.turn world p).1.left.isValid = (c.turn world p).1.staysValid := by
  rw [Bool.eq_iff_iff, left_turn, Probe.isValid_after_iff_of_not_mem (not_mem_operations_turn h world p)]
  simp [Turn.staysValid]

theorem isValid_kept (h : c.Abstains) (world : σ) (p : Probe)
    : (c.turn world p).1.kept.isValid = ((c.turn world p).1.isValid || (c.turn world p).1.staysValid) := by
  have hleft := isValid_left h world p
  unfold Turn.kept Turn.isValid
  cases (c.turn world p).1.accepted with
  | true =>
    rw [if_pos rfl, isValid_markValid, hleft, Bool.true_and]
    apply Bool.or_comm
  | false => exact hleft

theorem staysValid_turn {p : Probe} (h : c.Records ∨ p.isValid = false) (world : σ)
    : (c.turn world p).1.staysValid = false := by
  unfold Turn.staysValid
  rw [candidate_turn]
  cases h with
  | inl hrecords =>
    obtain ⟨op, hop, hstarts⟩ := hrecords world p
    have hmem : op ∈ (c.turn world p).1.operations := by
      cases hfailed : (c.attempted world p).isFailed with
      | true =>
        rw [turn_of_isFailed hfailed]
        exact hop
      | false =>
        rw [turn_of_not_isFailed hfailed]
        exact List.mem_append_left _ hop
    rw [List.any_eq_true.2 ⟨op, hmem, hstarts⟩]
    apply Bool.and_false
  | inr hinvalid => rw [hinvalid, Bool.false_and]

end Conduct

/-- What a scan makes of its candidates, turn by turn. -/
structure Conducted {σ : Type} (c : Conduct σ) (world : σ) (candidates : List Probe) (r : Scan × Trace σ) : Prop where
  candidates_eq : (c.turns world candidates).map Turn.candidate = candidates
  calls_eq : r.2.calls = (c.turns world candidates).flatMap Turn.calls
  probes_eq : r.1.probes = (c.turns world candidates).map Turn.kept
  isFailed_of_mem_valid : ∀ p ∈ r.1.valid, p.isFailed = false
  valid_eq : c.Abstains →
    r.1.valid = ((c.turns world candidates).filter fun t => t.isValid || t.staysValid).map Turn.kept
  valid_eq_accepted : c.Abstains → (c.Records ∨ ∀ p ∈ candidates, p.isValid = false) →
    r.1.valid = ((c.turns world candidates).filter Turn.isValid).map Turn.kept

theorem conducted_run {σ : Type} (c : Conduct σ) (world : σ) (name : String) (candidates : List Probe)
    (h : ∀ p ∈ candidates, p.Reachable)
    : Conducted c world candidates ((run name c.execute c.validate candidates).run { world }) := by
  obtain ⟨hscan, hcalls⟩ := c.run_foldlM_step { name } candidates { world }
  have hprobes := probes_foldl_add { name } ((c.turns world candidates).map Turn.kept)
  have hvalid := (tracks_foldl_add (tracks_empty name) ((c.turns world candidates).map Turn.kept)).valid_eq
  rw [hprobes, List.nil_append] at hvalid
  have hlisted (habstains : c.Abstains)
      : ((run name c.execute c.validate candidates).run { world }).1.valid
          =
        ((c.turns world candidates).filter fun t => t.isValid || t.staysValid).map Turn.kept := by
    unfold run
    rw [hscan, hvalid, List.filter_map]
    congr 1
    apply List.filter_congr
    intro t ht
    obtain ⟨world, q, _, rfl⟩ := Conduct.exists_of_mem_turns c ht
    exact Conduct.isValid_kept habstains world q
  unfold run at hlisted ⊢
  constructor
  case candidates_eq => apply Conduct.candidates_turns
  case calls_eq => exact hcalls
  case probes_eq =>
    rw [hscan]
    exact hprobes
  case isFailed_of_mem_valid =>
    intro p hp
    rw [hscan, hvalid] at hp
    obtain ⟨hmem, hp⟩ := List.mem_filter.1 hp
    obtain ⟨t, ht, rfl⟩ := List.mem_map.1 hmem
    obtain ⟨world, q, hq, rfl⟩ := Conduct.exists_of_mem_turns c ht
    exact (Conduct.consistent_kept (h q hq).consistent world).isFailed_of_isValid hp
  case valid_eq => exact hlisted
  case valid_eq_accepted =>
    intro habstains hfresh
    rw [hlisted habstains]
    congr 1
    apply List.filter_congr
    intro t ht
    obtain ⟨world, q, hq, rfl⟩ := Conduct.exists_of_mem_turns c ht
    rw [Conduct.staysValid_turn (hfresh.imp_right fun hinvalid => hinvalid q hq) world, Bool.or_false]

-- The second attempt fails, and the last validation fails the probe before it accepts it.
theorem conducted_run_acme
    : let page : Response := { status := 200, contentType := none, body := "", chain := [] }
      let c : Conduct Nat :=
        { attempt world _ := ([if world = 1 then .fail .refused else .respond page], world + 1)
          validation world _ := (true, if world = 3 then [.setUnhealthy, .fail .timeout] else [.setUnhealthy], world) }
      let candidates := (Endpoint.candidates "acme" ".symphony.com" [""] [443, 8443, 8444] "").map (·.probe "/" none)
      let r := (run "acme" c.execute c.validate candidates).run { world := 0 }
      c.Abstains ∧ c.Records ∧ (∀ p ∈ candidates, p.Reachable) ∧ Conducted c 0 candidates r
        ∧ r.1.valid.map Probe.url = ["https://acme.symphony.com/"] := by
  intro page c candidates r
  have habstains : c.Abstains := by
    constructor
    . intro world p
      simp only [c]
      split <;> simp
    . intro world p
      simp only [c]
      split <;> simp
  have hrecords : c.Records := by
    intro world p
    simp only [c, List.mem_singleton, exists_eq_left]
    split <;> rfl
  have hreachable : ∀ p ∈ candidates, p.Reachable := by
    intro p hp
    obtain ⟨endpoint, _, rfl⟩ := List.mem_map.1 hp
    exact ⟨endpoint, "/", none, [], rfl⟩
  exact ⟨habstains, hrecords, hreachable, conducted_run c 0 "acme" candidates hreachable, by decide⟩

-- The candidate was valid beforehand, and nothing is recorded by the attempt.
theorem valid_run_idle_ne
    : let page : Response := { status := 200, contentType := some "text/html", body := "", chain := [] }
      let c : Conduct Unit := { attempt world _ := ([], world), validation world _ := (false, [], world) }
      let endpoint : Endpoint := { name := "acme", suffix := "", domain := ".symphony.com", port := 443, basePath := "" }
      let candidate := (endpoint.probe "/" none).after [.respond page, .markValid]
      let r := (run "acme" c.execute c.validate [candidate]).run { world := () }
      c.Abstains ∧ candidate.Reachable ∧ r.1 = add { name := "acme" } candidate
        ∧ r.1.valid.map Probe.url = ["https://acme.symphony.com/"]
        ∧ (c.turns () [candidate]).filter Turn.isValid = [] := by
  intro page c endpoint candidate r
  refine ⟨⟨fun _ _ => List.not_mem_nil, fun _ _ => List.not_mem_nil⟩, ?_, rfl, by decide, rfl⟩
  exact ⟨endpoint, "/", none, [.respond page, .markValid], rfl⟩

end Scan

end PodProbe
