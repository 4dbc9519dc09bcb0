import Mathlib.Data.List.Induction
import PodProbe.Proofs.Probe.Receive

/-!
This module contains what holds of a probe after any operations in any order: its verdict, its flags and its result
stay in keeping with each other, and it is valid if and only if it was declared so since it last started over.
-/

namespace PodProbe.Probe

inductive Operation where
  | post
  | postJson (body : Json)
  | header (name value : String)
  | cookie (name value : String)
  | expectStatuses (statuses : List UInt16)
  | respond (r : Response)
  | fail (f : Failure)
  | recordChain (chain : List Certificate)
  | markValid
  | setUnhealthy
  | withPath (path : String) (expectedContentType : Option String)

namespace Operation

def perform : Operation → Probe → Probe
  | post, p => p.post
  | postJson body, p => p.postJson body
  | header name value, p => p.header name value
  | cookie name value, p => p.cookie name value
  | expectStatuses statuses, p => p.expectStatuses statuses
  | respond r, p => p.respond r
  | fail f, p => p.fail f
  | recordChain chain, p => p.recordChain chain
  | markValid, p => p.markValid.2
  | setUnhealthy, p => p.setUnhealthy
  | withPath path expectedContentType, p => p.withPath path expectedContentType

/-- Whether an operation makes void what was declared before it. -/
def startsOver : Operation → Bool
  | respond _ => true
  | fail _ => true
  | withPath _ _ => true
  | _ => false

end Operation

def after (p : Probe) (ops : List Operation) : Probe :=
  ops.foldl (fun p op => op.perform p) p

/-- Whether the verdict, the flags and the result of a probe are in keeping with each other. -/
structure Consistent (p : Probe) : Prop where
  isFailed_of_isValid : p.isValid → p.isFailed = false
  isFailedCertAuth_iff : p.isFailedCertAuth ↔ p.failure? = some .clientCertificateRequired
  answered_of_isFailed : p.isFailed = false → p.status.isSome ∧ p.body.isSome
  body_of_json : p.json.isSome → p.body.isSome

/-- Whether, since it last started over, a probe was declared valid at a time when it had not failed. -/
def Declared (p : Probe) (ops : List Operation) : Prop :=
  ∃ before since, ops = before ++ .markValid :: since
    ∧ (p.after before).isFailed = false
    ∧ ∀ op ∈ since, op.startsOver = false

/-- Whether a probe can be made at all, by any operations on one that was not attempted yet. -/
def Reachable (p : Probe) : Prop :=
  ∃ (endpoint : Endpoint) (path : String) (expectedContentType : Option String) (ops : List Operation),
    p = (endpoint.probe path expectedContentType).after ops

/-! ### One operation -/

theorem consistent_probe (e : Endpoint) (path : String) (expectedContentType : Option String)
    : (e.probe path expectedContentType).Consistent := by
  constructor <;> simp [Endpoint.probe, isFailed]

variable {p : Probe}

theorem consistent_fail (h : p.json.isSome → p.body.isSome) (f : Failure) : (p.fail f).Consistent := by
  constructor
  case isFailed_of_isValid => exact fun hvalid => by cases hvalid
  case isFailedCertAuth_iff => simp [fail]
  case answered_of_isFailed => exact fun hfailed => by cases hfailed
  case body_of_json => exact h

theorem Consistent.respond (h : p.Consistent) (r : Response) : (p.respond r).Consistent := by
  -- Each exit that fails is like a failure of its own; the two others leave a body and clear all flags.
  unfold Probe.respond
  dsimp only
  split
  . apply consistent_fail
    exact h.body_of_json
  . split
    . apply consistent_fail
      exact fun _ => rfl
    . split
      . split
        . constructor <;> simp [isFailed]
        . apply consistent_fail
          exact fun _ => rfl
      . constructor <;> simp [isFailed]

theorem Consistent.markValid (h : p.Consistent) : p.markValid.2.Consistent := by
  unfold Probe.markValid
  split
  . exact h
  . next hfailed =>
    exact ⟨fun _ => eq_false_of_ne_true hfailed, h.isFailedCertAuth_iff, h.answered_of_isFailed, h.body_of_json⟩

theorem Consistent.recordChain (h : p.Consistent) (chain : List Certificate) : (p.recordChain chain).Consistent := by
  unfold Probe.recordChain
  split
  . exact h
  . exact ⟨h.isFailed_of_isValid, h.isFailedCertAuth_iff, h.answered_of_isFailed, h.body_of_json⟩

theorem Consistent.perform (h : p.Consistent) (op : Operation) : (op.perform p).Consistent := by
  cases op with
  | respond r => exact h.respond r
  | fail f => exact consistent_fail h.body_of_json f
  | recordChain chain => exact h.recordChain chain
  | markValid => exact h.markValid
  | withPath path expectedContentType => apply consistent_probe
  | _ => exact ⟨h.isFailed_of_isValid, h.isFailedCertAuth_iff, h.answered_of_isFailed, h.body_of_json⟩

theorem isValid_respond (p : Probe) (r : Response) : (p.respond r).isValid = false := by
  obtain ⟨_, _, _, _, h⟩ := p.respond_eq r
  rw [h]

theorem markValid_eq_true_iff (p : Probe) : p.markValid.1 = true ↔ p.isFailed = false := by
  unfold markValid
  cases p.isFailed <;> simp

theorem markValid_of_eq_false (h : p.markValid.1 = false) : p.markValid.2 = p := by
  unfold markValid at h ⊢
  split
  . rfl
  . next hfailed => simp [hfailed] at h

theorem isValid_perform (p : Probe) (op : Operation)
    : (op.perform p).isValid ↔ op.startsOver = false ∧ (p.isValid ∨ op = .markValid ∧ p.isFailed = false) := by
  cases op with
  | respond r => simp [Operation.perform, Operation.startsOver, isValid_respond]
  | fail f => simp [Operation.perform, Operation.startsOver, fail]
  | withPath path expectedContentType => simp [Operation.perform, Operation.startsOver, withPath, Endpoint.probe]
  | markValid =>
    change p.markValid.2.isValid ↔ _
    unfold markValid
    cases p.isFailed <;> simp [Operation.startsOver]
  | recordChain chain =>
    obtain ⟨kept, h⟩ := p.recordChain_eq chain
    simp [Operation.perform, Operation.startsOver, h]
  | _ =>
    change p.isValid ↔ _
    simp [Operation.startsOver]

/-! ### Any operations -/

@[simp]
theorem after_nil (p : Probe) : p.after [] = p := rfl

@[simp]
theorem after_concat (p : Probe) (ops : List Operation) (op : Operation)
    : p.after (ops ++ [op]) = op.perform (p.after ops) := by
  unfold after
  rw [List.foldl_append]
  rfl

theorem not_declared_nil (p : Probe) : ¬ p.Declared [] := by
  rintro ⟨before, since, h, _⟩
  simp at h

theorem declared_concat_iff (p : Probe) (ops : List Operation) (op : Operation)
    : p.Declared (ops ++ [op])
        ↔
      op.startsOver = false ∧ (p.Declared ops ∨ op = .markValid ∧ (p.after ops).isFailed = false) := by
  constructor
  . rintro ⟨before, since, heq, hfailed, hsince⟩
    cases List.eq_nil_or_concat since with
    | inl hnil =>
      subst hnil
      obtain ⟨rfl, hop⟩ := List.append_inj' heq rfl
      cases hop
      exact ⟨rfl, Or.inr ⟨rfl, hfailed⟩⟩
    | inr hlast =>
      obtain ⟨init, last, rfl⟩ := hlast
      rw [List.concat_eq_append] at heq hsince
      rw [← List.cons_append, ← List.append_assoc] at heq
      obtain ⟨rfl, hop⟩ := List.append_inj' heq rfl
      cases hop
      rw [List.forall_mem_append, List.forall_mem_singleton] at hsince
      exact ⟨hsince.2, Or.inl ⟨before, init, rfl, hfailed, hsince.1⟩⟩
  . rintro ⟨hop, ⟨before, since, rfl, hfailed, hsince⟩ | ⟨rfl, hfailed⟩⟩
    . refine ⟨before, since ++ [op], by simp, hfailed, ?_⟩
      rw [List.forall_mem_append, List.forall_mem_singleton]
      exact ⟨hsince, hop⟩
    . exact ⟨ops, [], rfl, hfailed, by simp⟩

theorem Consistent.after (h : p.Consistent) (ops : List Operation) : (p.after ops).Consistent := by
  induction ops generalizing p with
  | nil => exact h
  | cons op ops ih => exact ih (h.perform op)

theorem isValid_after_iff (h : p.isValid = false) (ops : List Operation) : (p.after ops).isValid ↔ p.Declared ops := by
  -- From the last operation backwards, since this is where the time since the last start is cut off.
  induction ops using List.reverseRecOn with
  | nil => simp [h, not_declared_nil]
  | append_singleton ops op ih => rw [after_concat, isValid_perform, declared_concat_iff, ih]

theorem Reachable.consistent (h : p.Reachable) : p.Consistent := by
  obtain ⟨endpoint, path, expectedContentType, ops, rfl⟩ := h
  exact (consistent_probe endpoint path expectedContentType).after ops

theorem isValid_after_iff_of_not_mem {ops : List Operation} (h : .markValid ∉ ops)
    : (p.after ops).isValid ↔ p.isValid ∧ ∀ op ∈ ops, op.startsOver = false := by
  induction ops generalizing p with
  | nil => simp
  | cons op ops ih =>
    rw [List.mem_cons, not_or] at h
    change ((op.perform p).after ops).isValid ↔ _
    rw [ih h.2, isValid_perform, List.forall_mem_cons]
    simp only [Ne.symm h.1, false_and, or_false]
    tauto

theorem consistent_after (e : Endpoint) (path : String) (expectedContentType : Option String) (ops : List Operation)
    : let fresh := e.probe path expectedContentType
      let p := fresh.after ops
      p.Consistent
        ∧ (p.markValid.1 = true ↔ p.isFailed = false)
        ∧ (p.markValid.1 = false → p.markValid.2 = p)
        ∧ (p.isValid ↔ fresh.Declared ops) := by
  intro fresh p
  refine ⟨?_, p.markValid_eq_true_iff, markValid_of_eq_false, isValid_after_iff rfl ops⟩
  apply Consistent.after
  apply consistent_probe

end PodProbe.Probe
