import PodProbe.Proofs.Discovery.Errand

/-!
This module contains the answers of a run below each path: every service has a path of its own, so that the answers
of its candidates can be told from all others.
-/

namespace PodProbe

/-- The answers to all requests below a path. -/
def Journal.answersBelow (j : Journal) (basePath : String) : List Probe :=
  (j.exchanges.filter fun x => x.sent.endpoint.basePath == basePath).map Exchange.answered

namespace Discovery

def below (basePath : String) (ps : List Probe) : List Probe :=
  ps.filter fun p => p.endpoint.basePath == basePath

theorem answersBelow_of_exchanges_eq {e : Executor} {j : Journal} {ps : List Probe}
    (h : j.exchanges = ps.map e.exchange) (basePath : String)
    : j.answersBelow basePath = (below basePath ps).map e.execute := by
  unfold Journal.answersBelow below
  rw [h, List.filter_map, List.map_map]
  rfl

theorem below_append (basePath : String) (ps qs : List Probe)
    : below basePath (ps ++ qs) = below basePath ps ++ below basePath qs := by
  apply List.filter_append

theorem below_eq_nil {basePath : String} {ps : List Probe} (h : ∀ p ∈ ps, p.endpoint.basePath ≠ basePath)
    : below basePath ps = [] := by
  apply List.filter_eq_nil_iff.2
  intro p hp
  rw [beq_iff_eq]
  exact h p hp

theorem below_of_forall_eq {path : String} {ps : List Probe} (h : ∀ p ∈ ps, p.endpoint.basePath = path)
    (basePath : String)
    : below basePath ps = if path = basePath then ps else [] := by
  split
  . next heq =>
    apply List.filter_eq_self.2
    intro p hp
    rw [h p hp, beq_iff_eq]
    exact heq
  . next hne =>
    apply below_eq_nil
    intro p hp
    rw [h p hp]
    exact hne

variable (settings : Settings) (e : Executor)

theorem endpoints_authProbes (kind : AuthKind) (name domain : String) (tokens : Tokens)
    : (authProbes kind name domain tokens).map Probe.endpoint
        =
      Endpoint.candidates name domain nameSuffixes authPorts kind.basePath := by
  unfold authProbes
  simp only [List.map_map, Function.comp_def, Tokens.endpoint_asHeaders, Tokens.endpoint_asCookies]
  exact List.map_id _

theorem endpoints_agentProbes (tokens : Tokens)
    : (agentProbes settings tokens).map Probe.endpoint
        =
      Endpoint.candidates settings.name settings.domain nameSuffixes agentPorts agentBase := by
  unfold agentProbes
  simp only [List.map_map, Function.comp_def, Tokens.endpoint_asHeaders]
  exact List.map_id _

def managerCandidates : Option (String × String) → List Endpoint
  | some (name, domain) => Endpoint.candidates name domain nameSuffixes authPorts "/keyauth"
  | none => []

theorem endpoints_keyProbes (pod : Endpoint)
    : (keyProbes settings e pod).map Probe.endpoint = managerCandidates (Url.splitHost? (managerUrl settings e pod)) := by
  unfold keyProbes
  cases Url.splitHost? (managerUrl settings e pod) with
  | none => rfl
  | some host => apply endpoints_authProbes

theorem run_of_health (store : TokenStore) (h : (run settings e store).value.1.health.isSome)
    : ∃ port health certificates ps,
        let pod := settings.endpoint port
        let run := run settings e store
        (∀ p ∈ ps, p ∈ clientProbes settings podPorts ++ plainProbes settings podPorts)
          ∧ run.value = (fullReport settings e pod health certificates,
              (finalTokens settings e pod).handOver settings.hostname store)
          ∧ run.journal.exchanges = (ps ++ healthProbe pod :: fullProbes settings e pod).map e.exchange := by
  obtain ⟨certificates, hreport, hstore⟩ := value_run settings e store
  obtain ⟨ps, hsub, hsite⟩ := exchanges_detectSite settings e { store }
  have hpod := mem_endpoints_detectSite settings e { store }
  have hexchanges := exchanges_run settings e store
  dsimp only at hexchanges
  rw [hsite] at hexchanges
  generalize ((detectSite settings e).run { store }).value.1 = found at hreport hpod hexchanges
  rcases found with ⟨site, pod⟩
  rw [hreport] at h
  cases pod with
  | none => cases h
  | some pod =>
    obtain ⟨port, _, rfl⟩ := hpod pod rfl
    change (podReport settings e (settings.endpoint port) certificates).health.isSome at h
    rw [health_podReport] at h
    obtain ⟨health, hhealth⟩ := Option.isSome_iff_exists.1 h
    change _ = podReport settings e (settings.endpoint port) certificates at hreport
    rw [podReport_of_healthTold? settings e _ hhealth] at hreport
    refine ⟨port, health, certificates, ps, fun p hp => hsub.subset hp, ?_, ?_⟩
    . rw [← Prod.eta (run settings e store).value, hstore, hreport]
      rfl
    . rw [hexchanges, List.map_append, ← podProbes_of_healthTold? settings e _ hhealth]
      rfl

theorem basePath_of_mem_siteProbes {p : Probe}
    (h : p ∈ clientProbes settings podPorts ++ plainProbes settings podPorts) : p.endpoint.basePath = "" := by
  obtain ⟨errand, hmem, hasks⟩ := Errand.asks_siteProbes h
  rw [hasks.basePath_eq]
  simp only [List.mem_cons, List.not_mem_nil, or_false] at hmem
  rcases hmem with rfl | rfl | rfl <;> rfl

theorem below_fullProbes {ps : List Probe}
    (hps : ∀ p ∈ ps, p ∈ clientProbes settings podPorts ++ plainProbes settings podPorts) (port : UInt16)
    {basePath : String} (hempty : "" ≠ basePath) (hapi : podApiBase ≠ basePath)
    : below basePath
        (ps ++ healthProbe (settings.endpoint port) :: fullProbes settings e (settings.endpoint port))
        =
      (if "/sessionauth" = basePath then authProbes .session settings.name settings.domain {} else [])
        ++ (if "/keyauth" = basePath then keyProbes settings e (settings.endpoint port) else [])
        ++ (if agentBase = basePath then
            agentProbes settings (finalTokens settings e (settings.endpoint port))
          else []) := by
  have hsite : below basePath ps = [] := by
    apply below_eq_nil
    intro p hp
    rw [basePath_of_mem_siteProbes settings (hps p hp)]
    exact hempty
  have hhealth : below basePath [healthProbe (settings.endpoint port)] = [] := by
    apply below_eq_nil
    intro p hp
    rw [List.mem_singleton.1 hp, (Errand.asks_healthProbe settings port).basePath_eq]
    exact hempty
  have hown : below basePath (ownProbes (settings.endpoint port) (sessionTokens settings e)) = [] := by
    apply below_eq_nil
    intro p hp
    obtain ⟨s, hs, hasks⟩ := Errand.asks_ownProbes hp
    rw [hasks.basePath_eq]
    simp only [List.mem_cons, List.not_mem_nil, or_false] at hs
    rcases hs with rfl | rfl | rfl
    . exact hapi
    . exact hempty
    . exact hempty
  unfold fullProbes
  rw [List.append_cons ps]
  simp only [below_append, hsite, hhealth, hown, List.nil_append, List.append_nil]
  rw [below_of_forall_eq fun p hp => (Errand.asks_authProbes .session hp).basePath_eq]
  rw [below_of_forall_eq fun p hp => (Errand.asks_keyProbes hp).basePath_eq]
  rw [below_of_forall_eq fun p hp => (Errand.asks_agentProbes hp).basePath_eq]
  rfl

theorem answersBelow_of_health (store : TokenStore) (h : (run settings e store).value.1.health.isSome)
    : ∃ port health certificates,
        let pod := settings.endpoint port
        let run := run settings e store
        run.value = (fullReport settings e pod health certificates,
            (finalTokens settings e pod).handOver settings.hostname store)
          ∧ run.journal.answersBelow "/sessionauth"
              = (authProbes .session settings.name settings.domain {}).map e.execute
          ∧ run.journal.answersBelow "/keyauth" = (keyProbes settings e pod).map e.execute
          ∧ run.journal.answersBelow "/agent"
              = (agentProbes settings (finalTokens settings e pod)).map e.execute := by
  obtain ⟨port, health, certificates, ps, hps, hvalue, hexchanges⟩ := run_of_health settings e store h
  refine ⟨port, health, certificates, hvalue, ?_, ?_, ?_⟩
  . rw [answersBelow_of_exchanges_eq hexchanges, below_fullProbes settings e hps port (by decide) (by decide)]
    simp [agentBase]
  . rw [answersBelow_of_exchanges_eq hexchanges, below_fullProbes settings e hps port (by decide) (by decide)]
    simp [agentBase]
  . rw [answersBelow_of_exchanges_eq hexchanges, below_fullProbes settings e hps port (by decide) (by decide)]
    simp [agentBase]

end Discovery

end PodProbe
