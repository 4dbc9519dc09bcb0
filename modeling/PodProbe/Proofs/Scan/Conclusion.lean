import PodProbe.Proofs.Probe.Receive
import PodProbe.Proofs.Scan.Position
import PodProbe.Proofs.Scan.Run

/-!
This module contains what a scan concludes from the answers of its candidates: which of them were accepted and which
ask for a client certificate decides, and nothing else.
-/

namespace PodProbe

/-- The URL to be kept where some probes are valid and some ask for a client certificate. -/
def preferredUrl (valid certAuth : List Probe) : Option String :=
  match valid, certAuth with
  | [p], _ => some p.baseUrl
  | _, [p] => some p.baseUrl
  | _, _ => none

theorem Outcome.url?_of (valid certAuth : List Probe)
    : (of valid certAuth).url? = preferredUrl valid certAuth := by
  unfold of preferredUrl
  match valid, certAuth with
  | [], [] => rfl
  | [], [_] => rfl
  | [], _ :: _ :: _ => rfl
  | [_], _ => rfl
  | _ :: _ :: _, [] => rfl
  | _ :: _ :: _, [_] => rfl
  | _ :: _ :: _, _ :: _ :: _ => rfl

theorem Outcome.of_eq_found_iff {valid certAuth : List Probe} {p : Probe}
    : of valid certAuth = .found p ↔ valid = [p] := by
  unfold of
  split <;> simp_all

def Probe.declared (p : Probe) : Probe :=
  { p with isValid := true }

theorem preferredUrl_map {f g : Probe → Probe} (hf : ∀ p, (f p).baseUrl = p.baseUrl)
    (hg : ∀ p, (g p).baseUrl = p.baseUrl) (valid certAuth : List Probe)
    : preferredUrl (valid.map f) (certAuth.map g) = preferredUrl valid certAuth := by
  unfold preferredUrl
  match valid, certAuth with
  | [], [] => rfl
  | [], [p] => exact congrArg some (hg p)
  | [], _ :: _ :: _ => rfl
  | [p], _ => exact congrArg some (hf p)
  | _ :: _ :: _, [] => rfl
  | _ :: _ :: _, [p] => exact congrArg some (hg p)
  | _ :: _ :: _, _ :: _ :: _ => rfl

theorem preferredUrl_map_declared (valid certAuth : List Probe)
    : preferredUrl (valid.map Probe.declared) certAuth = preferredUrl valid certAuth := by
  have h := preferredUrl_map (f := Probe.declared) (g := id) (fun _ => rfl) (fun _ => rfl) valid certAuth
  rwa [List.map_id] at h

namespace Scan

variable (accepts : Probe → Bool)

def accepted (answers : List Probe) : List Probe :=
  answers.filter fun p => !p.isFailed && accepts p

def demanding (answers : List Probe) : List Probe :=
  answers.filter fun p => p.failure? == some .clientCertificateRequired

theorem settled_eq (p : Probe)
    : settled (fun p => (accepts p, p)) p = if !p.isFailed && accepts p then p.declared else p := by
  unfold settled Probe.markValid Probe.declared
  cases p.isFailed <;> simp

theorem chain_settled (p : Probe) : (settled (fun p => (accepts p, p)) p).chain = p.chain := by
  rw [settled_eq]
  split <;> rfl

-- No answer is valid before its validation, so that the valid ones are those that were declared so.
theorem filter_isValid_settled {answers : List Probe} (h : ∀ p ∈ answers, p.isValid = false)
    : (answers.map (settled fun p => (accepts p, p))).filter Probe.isValid
        =
      (accepted accepts answers).map Probe.declared := by
  induction answers with
  | nil => rfl
  | cons p ps ih =>
    rw [List.forall_mem_cons] at h
    unfold accepted at ih ⊢
    rw [List.map_cons, List.filter_cons, List.filter_cons, ih h.2, settled_eq]
    cases !p.isFailed && accepts p with
    | false => simp [h.1]
    | true => simp [Probe.declared]

theorem filter_isFailedCertAuth_settled {answers : List Probe}
    (h : ∀ p ∈ answers, p.isFailedCertAuth → p.isFailed)
    : (answers.map (settled fun p => (accepts p, p))).filter Probe.isFailedCertAuth
        =
      answers.filter Probe.isFailedCertAuth := by
  induction answers with
  | nil => rfl
  | cons p ps ih =>
    rw [List.forall_mem_cons] at h
    rw [List.map_cons, List.filter_cons, List.filter_cons, ih h.2, settled_eq]
    cases hfailed : p.isFailed with
    | false =>
      have hcert : p.isFailedCertAuth = false := by
        cases hcert : p.isFailedCertAuth with
        | false => rfl
        | true => simpa [hfailed] using h.1 hcert
      cases accepts p <;> simp [Probe.declared, hcert]
    | true => simp

theorem filter_isFailedCertAuth_execute (e : Executor) (ps : List Probe)
    : (ps.map e.execute).filter Probe.isFailedCertAuth = demanding (ps.map e.execute) := by
  unfold demanding
  apply List.filter_congr
  intro q hq
  obtain ⟨p, _, rfl⟩ := List.mem_map.1 hq
  apply e.isFailedCertAuth_execute

theorem probes_ofAttempts (e : Executor) (validate : Probe → Bool × Probe) (name : String) (ps : List Probe)
    : (ofAttempts e validate name ps).probes = (ps.map e.execute).map (settled validate) := by
  unfold ofAttempts
  rw [probes_foldl_add, List.map_map]
  rfl

theorem outcome_ofAttempts (e : Executor) (name : String) (ps : List Probe)
    : (ofAttempts e (fun p => (accepts p, p)) name ps).outcome
        =
      .of ((accepted accepts (ps.map e.execute)).map Probe.declared) (demanding (ps.map e.execute)) := by
  have htracks : (ofAttempts e (fun p => (accepts p, p)) name ps).Tracks := by
    apply tracks_foldl_add
    apply tracks_empty
  rw [htracks.outcome_eq, htracks.valid_eq, htracks.certAuth_eq, probes_ofAttempts]
  rw [filter_isValid_settled, filter_isFailedCertAuth_settled, filter_isFailedCertAuth_execute]
  . intro q hq
    obtain ⟨p, _, rfl⟩ := List.mem_map.1 hq
    apply e.isFailed_of_isFailedCertAuth_execute
  . intro q hq
    obtain ⟨p, _, rfl⟩ := List.mem_map.1 hq
    apply e.isValid_execute

theorem url?_outcome_ofAttempts (e : Executor) (name : String) (ps : List Probe)
    : (ofAttempts e (fun p => (accepts p, p)) name ps).outcome.url?
        =
      preferredUrl (accepted accepts (ps.map e.execute)) (demanding (ps.map e.execute)) := by
  rw [outcome_ofAttempts, Outcome.url?_of, preferredUrl_map_declared]

end Scan

end PodProbe
