import PodProbe.Proofs.Harvest
import PodProbe.Proofs.Scan.Position
import PodProbe.Proofs.Scan.Run

/-!
This module contains that it does not matter in which order the candidates of a scan are attempted, since each of them
is answered and validated by itself: the conclusion is of the same kind and about the same probes, the same URL is kept
and the same certificates are harvested.
-/

namespace PodProbe

/-- Whether two outcomes are of one kind and about the same probes, in whatever order these are listed. -/
inductive Outcome.Resembles : Outcome → Outcome → Prop where
  | found (p : Probe) : Resembles (.found p) (.found p)
  | probable (p : Probe) : Resembles (.probable p) (.probable p)
  | possible {ps qs : List Probe} (h : ps.Perm qs) : Resembles (.possible ps) (.possible qs)
  | ambiguous {ps qs : List Probe} (h : ps.Perm qs) : Resembles (.ambiguous ps) (.ambiguous qs)
  | notFound : Resembles .notFound .notFound

namespace Outcome

theorem Resembles.url?_eq {o o' : Outcome} (h : o.Resembles o') : o.url? = o'.url? := by
  cases h <;> rfl

theorem none_or_one_or_more_of_perm {ps qs : List Probe} (h : ps.Perm qs)
    : (ps = [] ∧ qs = [])
      ∨ (∃ p, ps = [p] ∧ qs = [p])
      ∨ ∃ p p' q q' ps' qs', ps = p :: p' :: ps' ∧ qs = q :: q' :: qs' := by
  cases ps with
  | nil => exact Or.inl ⟨rfl, h.nil_eq.symm⟩
  | cons p ps =>
    cases ps with
    | nil => exact Or.inr (Or.inl ⟨p, rfl, h.singleton_eq.symm⟩)
    | cons p' ps' =>
      right
      right
      match qs, h.length_eq with
      | q :: q' :: qs', _ => exact ⟨p, p', q, q', ps', qs', rfl, rfl⟩

theorem resembles_of {valid valid' certAuth certAuth' : List Probe} (hvalid : valid.Perm valid')
    (hcert : certAuth.Perm certAuth')
    : (of valid certAuth).Resembles (of valid' certAuth') := by
  -- An only probe is the same one on both sides; of several ones only the order can differ.
  obtain ⟨rfl, rfl⟩ | ⟨p, rfl, rfl⟩ | ⟨_, _, _, _, _, _, rfl, rfl⟩ := none_or_one_or_more_of_perm hvalid
  . obtain ⟨rfl, rfl⟩ | ⟨p, rfl, rfl⟩ | ⟨_, _, _, _, _, _, rfl, rfl⟩ := none_or_one_or_more_of_perm hcert
    . exact .notFound
    . exact .probable p
    . exact .possible hcert
  . exact .found p
  . obtain ⟨rfl, rfl⟩ | ⟨p, rfl, rfl⟩ | ⟨_, _, _, _, _, _, rfl, rfl⟩ := none_or_one_or_more_of_perm hcert
    . exact .ambiguous hvalid
    . exact .probable p
    . exact .possible hcert

end Outcome

namespace Scan

theorem Tracks.resembles {s t : Scan} (hs : s.Tracks) (ht : t.Tracks) (h : s.probes.Perm t.probes)
    : s.outcome.Resembles t.outcome := by
  rw [hs.outcome_eq, ht.outcome_eq, hs.valid_eq, ht.valid_eq, hs.certAuth_eq, ht.certAuth_eq]
  apply Outcome.resembles_of
  . exact h.filter _
  . exact h.filter _

variable (e : Executor) (validate : Probe → Bool × Probe) (name : String)

theorem tracks_ofAttempts (ps : List Probe) : (ofAttempts e validate name ps).Tracks := by
  apply tracks_foldl_add
  apply tracks_empty

theorem probes_ofAttempts_perm {ps qs : List Probe} (h : ps.Perm qs)
    : (ofAttempts e validate name ps).probes.Perm (ofAttempts e validate name qs).probes := by
  unfold ofAttempts
  rw [probes_foldl_add, probes_foldl_add]
  exact h.map _

/-- The certificates are harvested on top of those of any probes that were seen before. -/
theorem resembles_runJournaled {ps qs : List Probe} (h : ps.Perm qs) (seen : List Probe) :
    let s := (runJournaled name e validate ps).value
    let t := (runJournaled name e validate qs).value
    s.outcome.Resembles t.outcome
      ∧ s.probes.Perm t.probes
      ∧ s.outcome.url? = t.outcome.url?
      ∧ (Harvest.ofProbes seen).absorbAll s.probes = (Harvest.ofProbes seen).absorbAll t.probes := by
  intro s t
  have hs : s = ofAttempts e validate name ps := value_runJournaled e validate name ps
  have ht : t = ofAttempts e validate name qs := value_runJournaled e validate name qs
  have hperm : s.probes.Perm t.probes := by
    rw [hs, ht]
    exact probes_ofAttempts_perm e validate name h
  have hresembles : s.outcome.Resembles t.outcome := by
    apply Tracks.resembles _ _ hperm
    . rw [hs]
      apply tracks_ofAttempts
    . rw [ht]
      apply tracks_ofAttempts
  exact ⟨hresembles, hperm, hresembles.url?_eq, (Harvest.ordered_ofProbes seen).absorbAll_perm hperm⟩

theorem resembles_runJournaled_acme :
    let candidates := (Endpoint.candidates "acme" ".symphony.com" ["-api", ""] [8444, 8445] "/sessionauth").map
      (·.probe "/v1/authenticate" none)
    let page : Response := { status := 200, contentType := none, body := "", chain := [⟨[1]⟩, ⟨[2]⟩] }
    let e := Executor.ofReplies
      [("https://acme.symphony.com:8445/sessionauth/v1/authenticate", .response page)]
      (.failure .clientCertificateRequired [⟨[3]⟩])
    let validate (p : Probe) := (p.status == some 200, p)
    let s := (runJournaled "Session auth" e validate candidates).value
    let t := (runJournaled "Session auth" e validate candidates.reverse).value
    candidates.Perm candidates.reverse
      ∧ s.outcome.url? = some "https://acme.symphony.com:8445/sessionauth"
      ∧ s.outcome.Resembles t.outcome
      ∧ s.probes.Perm t.probes
      ∧ s.outcome.url? = t.outcome.url?
      ∧ (Harvest.ofProbes []).absorbAll s.probes = (Harvest.ofProbes []).absorbAll t.probes := by
  intro candidates page e validate s t
  have hperm : candidates.Perm candidates.reverse := candidates.reverse_perm.symm
  have hurl : s.outcome.url? = some "https://acme.symphony.com:8445/sessionauth" := by
    decide +kernel
  exact ⟨hperm, hurl, resembles_runJournaled e validate "Session auth" hperm []⟩

end Scan

end PodProbe
