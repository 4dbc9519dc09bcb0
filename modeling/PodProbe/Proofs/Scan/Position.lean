import Mathlib.Data.List.Basic
import PodProbe.Scan

/-!
This module contains the positions that a scan keeps: however many probes are taken in, in whatever order, they are
the positions of the probes of each kind. What a scan lists and concludes thus depends on its probes alone.
-/

theorem List.filterMap_getElem?_findIdxs (p : α → Bool) (xs : List α)
    : (xs.findIdxs p).filterMap (xs[·]?) = xs.filter p := by
  induction xs with
  | nil => rfl
  | cons x xs ih =>
    have tail : (xs.findIdxs p 1).filterMap ((x :: xs)[·]?) = xs.filter p := by
      rw [List.findIdxs_start, List.filterMap_map]
      simpa [Function.comp_def] using ih
    rw [List.findIdxs_cons]
    split
    . simp [*]
    . simp [*]

namespace PodProbe

def Outcome.of (valid certAuth : List Probe) : Outcome :=
  match valid, certAuth with
  | [p], _ => .found p
  | _, [p] => .probable p
  | _, p :: q :: ps => .possible (p :: q :: ps)
  | p :: q :: ps, [] => .ambiguous (p :: q :: ps)
  | [], [] => .notFound

theorem Outcome.url?_eq_some_iff {o : Outcome} {url : String}
    : o.url? = some url ↔ ∃ p, (o = .found p ∨ o = .probable p) ∧ p.baseUrl = url := by
  cases o <;> simp [Outcome.url?]

namespace Scan

structure Tracks (s : Scan) : Prop where
  successfulAt_eq : s.successfulAt = s.probes.findIdxs fun p => !p.isFailed
  validAt_eq : s.validAt = s.probes.findIdxs Probe.isValid
  choice_eq : s.choice = if s.validAt.length = 1 then s.validAt.head? else none
  certAuthAt_eq : s.certAuthAt = s.probes.findIdxs Probe.isFailedCertAuth

theorem tracks_empty (name : String) : Tracks { name } := by
  constructor <;> rfl

theorem findIdxs_concat (f : Probe → Bool) (ps : List Probe) (p : Probe)
    : (ps ++ [p]).findIdxs f = if f p then ps.findIdxs f ++ [ps.length] else ps.findIdxs f := by
  rw [List.findIdxs_append, List.findIdxs_singleton]
  split <;> simp

theorem Tracks.add {s : Scan} (h : s.Tracks) (p : Probe) : (s.add p).Tracks := by
  constructor
  . simp only [Scan.add, findIdxs_concat, h.successfulAt_eq]
    cases p.isFailed <;> rfl
  . simp only [Scan.add, findIdxs_concat, h.validAt_eq]
  . -- The position that is chosen last is the first one only if it is the only one.
    have hchoice := h.choice_eq
    simp only [Scan.add]
    split
    . split
      . next hlen =>
        have hnil : s.validAt = [] := by simpa using hlen
        simp [hnil]
      . rfl
    . exact hchoice
  . simp only [Scan.add, findIdxs_concat, h.certAuthAt_eq]

theorem tracks_foldl_add {s : Scan} (h : s.Tracks) (ps : List Probe) : (ps.foldl Scan.add s).Tracks := by
  induction ps generalizing s with
  | nil => exact h
  | cons p ps ih => exact ih (h.add p)

theorem name_foldl_add (s : Scan) (ps : List Probe) : (ps.foldl Scan.add s).name = s.name := by
  induction ps generalizing s with
  | nil => rfl
  | cons p ps ih => simp [ih]

theorem probes_foldl_add (s : Scan) (ps : List Probe) : (ps.foldl Scan.add s).probes = s.probes ++ ps := by
  induction ps generalizing s with
  | nil => simp
  | cons p ps ih => simp [ih]

namespace Tracks

variable {s : Scan}

theorem successful_eq (h : s.Tracks) : s.successful = s.probes.filter fun p => !p.isFailed := by
  unfold successful pick
  rw [h.successfulAt_eq, List.filterMap_getElem?_findIdxs]

theorem valid_eq (h : s.Tracks) : s.valid = s.probes.filter Probe.isValid := by
  unfold valid pick
  rw [h.validAt_eq, List.filterMap_getElem?_findIdxs]

theorem certAuth_eq (h : s.Tracks) : s.certAuth = s.probes.filter Probe.isFailedCertAuth := by
  unfold certAuth pick
  rw [h.certAuthAt_eq, List.filterMap_getElem?_findIdxs]

theorem length_validAt (h : s.Tracks) : s.validAt.length = s.valid.length := by
  rw [h.validAt_eq, h.valid_eq, List.length_findIdxs, List.countP_eq_length_filter]

theorem validProbe?_eq (h : s.Tracks) : s.validProbe? = if s.valid.length = 1 then s.valid.head? else none := by
  unfold validProbe?
  rw [h.choice_eq, h.length_validAt]
  split
  . next hlen =>
    -- All positions lead to probes, so the first valid one stands at the first position.
    obtain ⟨i, hi⟩ : ∃ i, s.validAt = [i] := by
      rw [← h.length_validAt] at hlen
      exact List.length_eq_one_iff.1 hlen
    have hmem : i ∈ s.probes.findIdxs Probe.isValid := by
      rw [← h.validAt_eq, hi]
      exact List.mem_singleton_self i
    obtain ⟨hlt, _⟩ := List.mem_findIdxs_iff_exists_getElem_pos.1 hmem
    simp [valid, pick, hi, List.getElem?_eq_getElem hlt]
  . rfl

theorem validProbe?_eq_some_iff (h : s.Tracks) {p : Probe} : s.validProbe? = some p ↔ s.valid = [p] := by
  rw [h.validProbe?_eq]
  match s.valid with
  | [] => simp
  | [q] => simp
  | q :: r :: ps => simp

theorem outcome_eq (h : s.Tracks) : s.outcome = .of s.valid s.certAuth := by
  unfold outcome Outcome.of
  rw [h.validProbe?_eq, h.length_validAt]
  match s.valid, s.certAuth with
  | [], [] => simp
  | [], [_] => simp
  | [], _ :: _ :: _ => simp
  | [_], _ => simp
  | _ :: _ :: _, [] => simp
  | _ :: _ :: _, [_] => simp
  | _ :: _ :: _, _ :: _ :: _ => simp

end Tracks

theorem foldl_add_views (name : String) (ps : List Probe) :
    let s := ps.foldl Scan.add { name }
    s.name = name
      ∧ s.probes = ps
      ∧ s.successful = ps.filter (fun p => !p.isFailed)
      ∧ s.certAuth = ps.filter Probe.isFailedCertAuth
      ∧ s.valid = ps.filter Probe.isValid
      ∧ (∀ p, s.validProbe? = some p ↔ ps.filter Probe.isValid = [p])
      ∧ (∀ qs : List Probe, (qs.foldl Scan.add s).validProbe? = none ∨ (ps.filter Probe.isValid).length ≤ 1)
      ∧ s.outcome = .of (ps.filter Probe.isValid) (ps.filter Probe.isFailedCertAuth)
      ∧ ∀ url, s.outcome.url? = some url
          ↔ ∃ p, (s.outcome = .found p ∨ s.outcome = .probable p) ∧ p.baseUrl = url := by
  intro s
  have htracks : s.Tracks := tracks_foldl_add (tracks_empty name) ps
  have hprobes : s.probes = ps := probes_foldl_add { name } ps
  have hvalid : s.valid = ps.filter Probe.isValid := by rw [htracks.valid_eq, hprobes]
  have hcert : s.certAuth = ps.filter Probe.isFailedCertAuth := by rw [htracks.certAuth_eq, hprobes]
  refine ⟨name_foldl_add { name } ps, hprobes, ?_, hcert, hvalid, ?_, ?_, ?_, ?_⟩
  . rw [htracks.successful_eq, hprobes]
  . intro p
    rw [htracks.validProbe?_eq_some_iff, hvalid]
  . intro qs
    have hlater := tracks_foldl_add htracks qs
    rw [hlater.validProbe?_eq, hlater.valid_eq, probes_foldl_add, List.filter_append, hprobes]
    split
    . next hlen =>
      right
      rw [List.length_append] at hlen
      omega
    . exact Or.inl rfl
  . rw [htracks.outcome_eq, hvalid, hcert]
  . exact fun url => Outcome.url?_eq_some_iff

end Scan

end PodProbe
