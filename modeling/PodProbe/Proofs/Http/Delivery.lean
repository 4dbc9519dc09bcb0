import Mathlib.Data.List.Induction
import PodProbe.Http.Executor
import PodProbe.Proofs.Probe.Receive
import PodProbe.Proofs.Probe.Verdict

/-!
This module contains that the certificates of a server reach the probe. In whatever way an attempt ends, the chain that
was presented last is taken out of the recorder once, and it stays with the probe whatever is made of the response.
-/

namespace PodProbe

theorem Probe.failure?_respond_ne_notAttempted (p : Probe) (r : Response)
    : (p.respond r).failure? ≠ some .notAttempted := by
  rw [failure?_respond]
  unfold verdict?
  split
  . simp
  . split
    . simp
    . split
      . split <;> simp
      . simp

namespace Http

/-- The certificates that were presented last, that of the server first. -/
def lastPresented (presented : List (Certificate × List Certificate)) : List Certificate :=
  presented.getLast?.elim [] fun (leaf, intermediates) => leaf :: intermediates

/-- What was presented in the course of an attempt, if it came to one. -/
def Course.presented : Course → List (Certificate × List Certificate)
  | attempted a => a.presented
  | _ => []

/-- Whether a probe was attempted and has the chain that was presented last, which has left the recorder. -/
structure Delivered (presented : List (Certificate × List Certificate)) (p : Probe) (r : Tls.Recorder) : Prop where
  failure?_ne : p.failure? ≠ some .notAttempted
  chain_eq : p.chain = lastPresented presented
  recorder_eq : r = {}

theorem TransportError.failure_ne_notAttempted (e : TransportError) : e.failure ≠ .notAttempted := by
  unfold failure
  split
  . simp
  . simp
  . split
    . simp
    . split
      . simp
      . split
        . simp
        . split <;> simp

namespace Attempt

theorem watch_concat (presented : List (Certificate × List Certificate)) (leaf : Certificate)
    (intermediates : List Certificate) (ending : Except TransportError Answer) (r : Tls.Recorder)
    : watch { presented := presented ++ [(leaf, intermediates)], ending } r = { chain := leaf :: intermediates } := by
  unfold watch
  rw [List.foldl_append]
  rfl

theorem watch_empty (a : Attempt) : a.watch {} = { chain := lastPresented a.presented } := by
  rcases a with ⟨presented, ending⟩
  induction presented using List.reverseRecOn with
  | nil => rfl
  | append_singleton presented p _ =>
    rw [watch_concat, lastPresented, List.getLast?_concat]
    rfl

/-- A reply that brings a chain along. -/
def replyWith (a : Attempt) (chain : List Certificate) : Reply :=
  match a.ending with
  | .ok answer => .response { status := answer.status, contentType := answer.contentType, body := answer.body, chain }
  | .error e => .failure e.failure chain

theorem conclude_eq (a : Attempt) : a.conclude = (a.replyWith (lastPresented a.presented), {}) := by
  -- The chain is taken in one of two places, but in each of them only once.
  unfold conclude send replyWith
  rw [watch_empty]
  cases a.ending <;> rfl

theorem delivered_conclude {p : Probe} (h : p.chain = []) (a : Attempt)
    : Delivered a.presented (p.receive a.conclude.1) a.conclude.2 := by
  rw [conclude_eq]
  constructor
  case failure?_ne =>
    unfold replyWith
    cases a.ending with
    | ok answer => apply Probe.failure?_respond_ne_notAttempted
    | error e =>
      obtain ⟨chain, hrecord⟩ := (p.fail e.failure).recordChain_eq (lastPresented a.presented)
      change ((p.fail e.failure).recordChain _).failure? ≠ _
      rw [hrecord]
      intro heq
      exact e.failure_ne_notAttempted (Option.some.inj heq)
  case chain_eq =>
    rw [Probe.chain_receive h]
    unfold replyWith
    cases a.ending <;> rfl
  case recorder_eq => rfl

end Attempt

theorem delivered_execute (endpoint : Endpoint) (path : String) (request : Request)
    : let p : Probe := { endpoint, path, request }
      (∀ a : Attempt, Delivered a.presented (p.receive a.conclude.1) a.conclude.2)
        ∧ ∀ net settings,
            let course := course net settings p
            Delivered course.presented ((executor net settings).execute p) course.conclude.2 := by
  intro p
  refine ⟨fun a => a.delivered_conclude rfl, ?_⟩
  intro net settings course
  change Delivered course.presented (p.receive course.conclude.1) course.conclude.2
  cases course with
  | unknownHost reason =>
    refine ⟨?_, rfl, rfl⟩
    change (some Failure.unknownHost) ≠ _
    simp
  | refused r => exact Attempt.delivered_conclude rfl { ending := .error r.error }
  | attempted a => exact a.delivered_conclude rfl

end Http

end PodProbe
