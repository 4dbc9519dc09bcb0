import PodProbe.Proofs.Discovery.Phase
import PodProbe.Proofs.Harvest
import PodProbe.Proofs.Probe.Attach

/-!
This module contains that a run keeps the certificates of all its attempts and of nothing else, wherever it stops. A
phase that does so may be followed by another one that does, so it is enough to look at the phases one by one.
-/

namespace PodProbe.Discovery

def Harvests {α : Type} (e : Executor) (x : Phase α) : Prop :=
  ∀ f, ∃ ps : List Probe, (∀ p ∈ ps, p.chain = [])
    ∧ (x.run f).journal.exchanges = ps.map e.exchange
    ∧ (x.run f).value.2.configuration.certificates
        = f.configuration.certificates.absorbAll (ps.map e.execute)

section

variable {α β : Type} {e : Executor}

theorem Harvests.bind {x : Phase α} {k : α → Phase β} (hx : Harvests e x) (hk : ∀ a, Harvests e (k a))
    : Harvests e (x >>= k) := by
  intro f
  obtain ⟨ps, hps, hexchanges, hcertificates⟩ := hx f
  obtain ⟨qs, hqs, hexchanges', hcertificates'⟩ := hk (x.run f).value.1 (x.run f).value.2
  refine ⟨ps ++ qs, ?_, ?_, ?_⟩
  . rw [List.forall_mem_append]
    exact ⟨hps, hqs⟩
  . rw [exchanges_bind, hexchanges, hexchanges', List.map_append]
  . rw [value_bind, hcertificates', hcertificates, List.map_append, Harvest.absorbAll_append]

theorem harvests_of_exchanges_eq_nil {x : Phase α}
    (h : ∀ f, (x.run f).journal.exchanges = []
      ∧ (x.run f).value.2.configuration.certificates = f.configuration.certificates)
    : Harvests e x := by
  intro f
  exact ⟨[], List.forall_mem_nil _, h f⟩

theorem harvests_pure (a : α) : Harvests e (pure a) := by
  apply harvests_of_exchanges_eq_nil
  intro f
  exact ⟨rfl, rfl⟩

theorem harvests_print (s : Text.Styled) : Harvests e (Journaled.print s : Phase Unit) := by
  apply harvests_of_exchanges_eq_nil
  intro f
  exact ⟨exchanges_lift f _, rfl⟩

theorem harvests_log (level : Level) (message : String)
    : Harvests e (Journaled.log level message : Phase Unit) := by
  apply harvests_of_exchanges_eq_nil
  intro f
  exact ⟨exchanges_lift f _, rfl⟩

theorem harvests_get : Harvests e (get : Phase Findings) := by
  apply harvests_of_exchanges_eq_nil
  intro f
  exact ⟨rfl, rfl⟩

theorem harvests_attempt {p : Probe} (h : p.chain = []) : Harvests e (attempt e p) := by
  intro f
  refine ⟨[p], ?_, exchanges_attempt e f p, ?_⟩
  . rw [List.forall_mem_singleton]
    exact h
  . rw [value_attempt]
    rfl

end

theorem absorbAll_ofAttempts (h : Harvest) (e : Executor) (accepts : Probe → Bool) (name : String) (ps : List Probe)
    : h.absorbAll (Scan.ofAttempts e (fun p => (accepts p, p)) name ps).probes = h.absorbAll (ps.map e.execute) := by
  apply h.absorbAll_congr
  rw [Scan.probes_ofAttempts, List.map_map]
  apply List.map_congr_left
  intro p _
  apply Scan.chain_settled

variable (settings : Settings) (e : Executor) (pod : Endpoint)

theorem harvests_findClient (seen : Bool) (ports : List UInt16)
    : Harvests e (findClient settings e seen ports) := by
  induction ports generalizing seen with
  | nil => apply harvests_pure
  | cons port ports ih =>
    unfold findClient
    apply (harvests_attempt rfl).bind
    intro site
    split
    . apply ih
    . apply (harvests_attempt rfl).bind
      intro client
      split
      . apply (harvests_print _).bind
        intro _
        apply ih
      . apply (harvests_print _).bind
        intro _
        apply harvests_of_exchanges_eq_nil
        intro f
        exact ⟨rfl, rfl⟩

theorem harvests_findPlainSite (ports : List UInt16) : Harvests e (findPlainSite settings e ports) := by
  induction ports with
  | nil => apply harvests_pure
  | cons port ports ih =>
    unfold findPlainSite
    apply (harvests_attempt rfl).bind
    intro p
    split
    . exact ih
    . apply (harvests_print _).bind
      intro _
      apply harvests_pure

theorem harvests_detectSite : Harvests e (detectSite settings e) := by
  have hend (s : Text.Styled) (found : Site × Option Endpoint)
      : Harvests e (do Journaled.print s; return found) :=
    (harvests_print s).bind fun _ => harvests_pure found
  unfold detectSite
  apply (harvests_print _).bind
  intro _
  apply (harvests_findClient settings e false podPorts).bind
  intro (seen, pod)
  dsimp only
  split
  . apply harvests_pure
  . split
    . apply hend
    . apply (harvests_findPlainSite settings e podPorts).bind
      intro plain
      split
      . apply harvests_pure
      . apply hend

theorem harvests_checkHealth : Harvests e (checkHealth e pod) := by
  intro f
  refine ⟨[healthProbe pod], ?_, exchanges_checkHealth e pod f, ?_⟩
  . rw [List.forall_mem_singleton]
    rfl
  . rw [value_checkHealth]
    split <;> rfl

theorem chain_of_mem_authProbes {kind : AuthKind} {name domain : String} {tokens : Tokens} {p : Probe}
    (h : p ∈ authProbes kind name domain tokens) : p.chain = [] := by
  obtain ⟨endpoint, _, rfl⟩ := List.mem_map.1 h
  rw [Tokens.asHeaders_eq, Tokens.asCookies_eq]
  rfl

theorem harvests_discoverAuth (kind : AuthKind) (name domain : String)
    : Harvests e (discoverAuth settings e kind name domain) := by
  intro f
  refine ⟨authProbes kind name domain f.tokens, ?_, exchanges_discoverAuth settings e f kind name domain, ?_⟩
  . intro p hp
    exact chain_of_mem_authProbes hp
  . rw [value_discoverAuth, ← absorbAll_ofAttempts _ e (fun p => (tokenOf? p).isSome) kind.title]
    cases kind <;> rfl

theorem harvests_discoverPodApi : Harvests e (discoverPodApi settings e pod) := by
  intro f
  refine ⟨[sessionInfoProbe pod f.tokens], ?_, exchanges_discoverPodApi settings e pod f, ?_⟩
  . rw [List.forall_mem_singleton]
    unfold sessionInfoProbe
    rw [Tokens.asCookies_eq]
    rfl
  . rw [value_discoverPodApi]
    rfl

theorem harvests_checkAuth : Harvests e (checkAuth e pod) := by
  intro f
  refine ⟨[checkAuthProbe pod f.tokens], ?_, exchanges_checkAuth e pod f, ?_⟩
  . rw [List.forall_mem_singleton]
    unfold checkAuthProbe
    rw [Tokens.asCookies_eq]
    rfl
  . rw [value_checkAuth]
    rfl

theorem harvests_podInfo : Harvests e (podInfo e pod) := by
  intro f
  refine ⟨[podInfoProbe pod], ?_, exchanges_podInfo e pod f, ?_⟩
  . rw [List.forall_mem_singleton]
    rfl
  . rw [value_podInfo]
    rfl

theorem harvests_discoverKeyAuth : Harvests e (discoverKeyAuth settings e) := by
  unfold discoverKeyAuth
  apply harvests_get.bind
  intro f
  split
  . apply harvests_discoverAuth
  . apply harvests_print

theorem harvests_discoverAgent : Harvests e (discoverAgent settings e) := by
  intro f
  refine ⟨agentProbes settings f.tokens, ?_, exchanges_discoverAgent settings e f, ?_⟩
  . intro p hp
    obtain ⟨endpoint, _, rfl⟩ := List.mem_map.1 hp
    rw [Tokens.asHeaders_eq]
    rfl
  . rw [value_discoverAgent, ← absorbAll_ofAttempts _ e (fun _ => true) "Agent"]
    rfl

/-! ### The whole run -/

theorem harvests_consultPod : Harvests e (consultPod settings e pod) := by
  unfold consultPod
  apply (harvests_discoverAuth settings e .session settings.name settings.domain).bind
  intro _
  apply (harvests_discoverPodApi settings e pod).bind
  intro identity
  apply (harvests_checkAuth e pod).bind
  intro _
  apply (harvests_podInfo e pod).bind
  intro _
  apply harvests_pure

theorem harvests_exploreHealthy (health : Health) : Harvests e (exploreHealthy settings e pod health) := by
  unfold exploreHealthy
  apply (harvests_consultPod settings e pod).bind
  intro identity
  apply (harvests_discoverKeyAuth settings e).bind
  intro _
  apply (harvests_discoverAgent settings e).bind
  intro _
  apply harvests_get.bind
  intro f
  apply harvests_pure

theorem harvests_explorePod : Harvests e (explorePod settings e pod) := by
  unfold explorePod
  apply (harvests_checkHealth e pod).bind
  intro health
  cases health with
  | some health => apply harvests_exploreHealthy
  | none =>
    apply (harvests_log _ _).bind
    intro _
    apply harvests_get.bind
    intro f
    apply harvests_pure

theorem harvests_explore : Harvests e (explore settings e) := by
  unfold explore
  apply (harvests_detectSite settings e).bind
  intro (site, pod)
  cases pod with
  | some pod => apply harvests_explorePod
  | none =>
    apply harvests_get.bind
    intro f
    apply harvests_pure

-- A run reports what it has found in the end, whichever of its three ends it comes to.
theorem configuration_explore (f : Findings)
    : let r := ((explore settings e).run f).value
      r.1.configuration = r.2.configuration := by
  unfold explore
  simp only [value_bind]
  rcases ((detectSite settings e).run f).value with ⟨⟨site, pod⟩, g⟩
  cases pod with
  | none => rfl
  | some pod =>
    dsimp only
    unfold explorePod
    rw [value_bind]
    rcases ((checkHealth e pod).run g).value with ⟨health, g⟩
    cases health with
    | none => rfl
    | some health => rfl

theorem journal_run (store : TokenStore)
    : (run settings e store).journal = ((explore settings e).run { store }).journal := by
  unfold run
  rw [Journaled.journal_bind]
  apply Journal.append_empty

theorem gathers_run (store : TokenStore)
    : let run := run settings e store
      run.value.1.configuration.certificates.Gathers (run.journal.exchanges.map (·.answered.chain))
        ∧ ∀ x ∈ run.journal.exchanges, x.answered.chain = (e.reply x.sent).chain := by
  intro run
  obtain ⟨ps, hps, hexchanges, hcertificates⟩ := harvests_explore settings e { store }
  rw [← journal_run] at hexchanges
  have hchains : run.journal.exchanges.map (·.answered.chain) = (ps.map e.execute).map Probe.chain := by
    rw [hexchanges, List.map_map, List.map_map]
    rfl
  have hreport : run.value.1.configuration.certificates = .ofProbes (ps.map e.execute) := by
    refine Eq.trans ?_ hcertificates
    exact congrArg Configuration.certificates (configuration_explore settings e { store })
  constructor
  . rw [hchains, hreport]
    apply Harvest.gathers_ofProbes
  . rw [hexchanges]
    intro x hx
    obtain ⟨p, hp, rfl⟩ := List.mem_map.1 hx
    exact Probe.chain_receive (hps p hp) _

end PodProbe.Discovery
