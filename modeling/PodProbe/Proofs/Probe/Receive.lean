import PodProbe.Journal

/-!
This module contains what a reply leaves of a probe: the request stays as it was sent, no reply makes a probe valid,
a client certificate counts as asked for if and only if this is why the attempt failed, and the chain that the server
presented is kept whatever the verdict.
-/

namespace PodProbe

def Reply.chain : Reply → List Certificate
  | response r => r.chain
  | failure _ chain => chain

namespace Probe

theorem respond_eq (p : Probe) (r : Response)
    : ∃ body json failure?, failure? ≠ some .clientCertificateRequired ∧
        p.respond r = { p with
          chain := r.chain, status := some r.status, contentType := r.contentType, body, json, failure?
          isFailedCertAuth := false, isValid := false } := by
  -- The exits of `respond` differ in body, payload and failure only, and none blames a client certificate.
  unfold respond
  dsimp only
  split
  . exact ⟨_, _, _, by simp, rfl⟩
  . split
    . exact ⟨_, _, _, by simp, rfl⟩
    . split
      . split
        . exact ⟨_, _, _, by simp, rfl⟩
        . exact ⟨_, _, _, by simp, rfl⟩
      . exact ⟨_, _, _, by simp, rfl⟩

theorem recordChain_eq (p : Probe) (chain : List Certificate)
    : ∃ kept, p.recordChain chain = { p with chain := kept } := by
  unfold recordChain
  split
  . exact ⟨p.chain, rfl⟩
  . exact ⟨chain, rfl⟩

theorem receive_eq (p : Probe) (r : Reply)
    : ∃ status contentType body json chain failure?,
        p.receive r = { p with
          status, contentType, body, json, chain, failure?
          isFailedCertAuth := failure? == some .clientCertificateRequired, isValid := false } := by
  cases r with
  | response r =>
    obtain ⟨body, json, failure?, hne, h⟩ := p.respond_eq r
    refine ⟨some r.status, r.contentType, body, json, r.chain, failure?, ?_⟩
    rw [receive, h, beq_eq_false_iff_ne.2 hne]
  | failure f chain =>
    obtain ⟨kept, h⟩ := (p.fail f).recordChain_eq chain
    exact ⟨p.status, p.contentType, p.body, p.json, kept, some f, h⟩

-- A response replaces the chain and an empty one of a failure does not, which is the same where there is none yet.
theorem chain_receive {p : Probe} (h : p.chain = []) (r : Reply) : (p.receive r).chain = r.chain := by
  cases r with
  | response r =>
    obtain ⟨_, _, _, _, hrespond⟩ := p.respond_eq r
    rw [receive, hrespond]
    rfl
  | failure f chain =>
    change ((p.fail f).recordChain chain).chain = chain
    unfold recordChain
    split
    . next hempty => exact h.trans (List.isEmpty_iff.1 hempty).symm
    . rfl

end Probe

namespace Executor

variable (e : Executor) (p : Probe)

@[simp]
theorem endpoint_execute : (e.execute p).endpoint = p.endpoint := by
  obtain ⟨_, _, _, _, _, _, h⟩ := p.receive_eq (e.reply p)
  rw [execute, h]

@[simp]
theorem isValid_execute : (e.execute p).isValid = false := by
  obtain ⟨_, _, _, _, _, _, h⟩ := p.receive_eq (e.reply p)
  rw [execute, h]

theorem exchange_congr {e e' : Executor} {p : Probe} (h : e.reply p = e'.reply p)
    : e.exchange p = e'.exchange p := by
  unfold exchange execute
  rw [h]

theorem isFailedCertAuth_execute
    : (e.execute p).isFailedCertAuth = ((e.execute p).failure? == some .clientCertificateRequired) := by
  obtain ⟨_, _, _, _, _, _, h⟩ := p.receive_eq (e.reply p)
  rw [execute, h]

theorem isFailed_of_isFailedCertAuth_execute (h : (e.execute p).isFailedCertAuth) : (e.execute p).isFailed := by
  rw [isFailedCertAuth_execute] at h
  unfold Probe.isFailed
  rw [eq_of_beq h]
  rfl

end Executor

end PodProbe
