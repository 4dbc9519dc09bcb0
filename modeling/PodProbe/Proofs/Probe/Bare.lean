import PodProbe.Proofs.Probe.Attach
import PodProbe.Proofs.Probe.Receive

/-!
This module contains that attached cookies and headers do not reach an answer, as long as the replies do not depend on
them: then two requests that differ in nothing else are answered alike.
-/

namespace PodProbe

namespace Probe

/-- A probe without what was attached to its request. -/
def bare (p : Probe) : Probe :=
  { p with request.headers := [], request.cookies := [] }

@[simp]
theorem bare_asCookies (t : Tokens) (p : Probe) : (t.asCookies p).bare = p.bare := by
  rw [Tokens.asCookies_eq]
  rfl

@[simp]
theorem bare_asHeaders (t : Tokens) (p : Probe) : (t.asHeaders p).bare = p.bare := by
  rw [Tokens.asHeaders_eq]
  rfl

theorem bare_respond (p : Probe) (r : Response) : (p.respond r).bare = p.bare.respond r := by
  unfold respond
  dsimp only
  rw [apply_ite bare, apply_ite bare, apply_ite bare]
  cases Json.ofText r.body <;> rfl

theorem bare_recordChain (p : Probe) (chain : List Certificate)
    : (p.recordChain chain).bare = p.bare.recordChain chain := by
  unfold recordChain
  split <;> rfl

theorem bare_receive (p : Probe) (r : Reply) : (p.receive r).bare = p.bare.receive r := by
  cases r with
  | response r => apply bare_respond
  | failure f chain => apply bare_recordChain

end Probe

namespace Executor

/-- Whether the replies depend on nothing but the URLs of the requests. -/
def KeyedByUrl (e : Executor) : Prop :=
  ∀ p q : Probe, p.url = q.url → e.reply p = e.reply q

theorem keyedByUrl_ofReplies (replies : List (String × Reply)) (fallback : Reply)
    : (ofReplies replies fallback).KeyedByUrl := by
  intro p q h
  unfold ofReplies
  dsimp only
  rw [h]

variable {e e' : Executor}

theorem bare_execute_congr (he : e.KeyedByUrl) {p q : Probe} (hbare : p.bare = q.bare)
    (h : e.reply q = e'.reply q)
    : (e.execute p).bare = (e'.execute q).bare := by
  have hurl : p.bare.url = q.bare.url := congrArg Probe.url hbare
  unfold execute
  rw [Probe.bare_receive, Probe.bare_receive, hbare, he p q hurl, h]

theorem bare_answers_congr (he : e.KeyedByUrl) {ps qs : List Probe} (hbare : ps.map Probe.bare = qs.map Probe.bare)
    (h : ∀ q ∈ qs, e.reply q = e'.reply q)
    : (ps.map e.execute).map Probe.bare = (qs.map e'.execute).map Probe.bare := by
  induction ps generalizing qs with
  | nil =>
    have hqs : qs = [] := List.map_eq_nil_iff.1 hbare.symm
    rw [hqs]
    rfl
  | cons p ps ih =>
    cases qs with
    | nil => cases hbare
    | cons q qs =>
      rw [List.forall_mem_cons] at h
      obtain ⟨hp, hps⟩ := List.cons.inj hbare
      simp only [List.map_cons]
      rw [bare_execute_congr he hp h.1, ih hps h.2]

end Executor

end PodProbe
