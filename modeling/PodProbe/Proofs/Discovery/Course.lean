import PodProbe.Proofs.Discovery.Site

/-!
This module contains the course of a whole run. It is determined by what the site detection finds, by the answer to
the health check, and from there on by one scan or answer for each phase, so that the report and the exchanges of a
run can be told in terms of these.
-/

namespace PodProbe

namespace Tokens

def handOver (t : Tokens) (hostname : String) (store : TokenStore) : TokenStore :=
  let stored := t.session.elim store (store.put hostname "sessionToken" ·)
  t.keyManager.elim stored (stored.put hostname "keyManagerToken" ·)

variable {hostname host name : String}

theorem get?_elim_put (token : Option String) (as : String) (store : TokenStore)
    : (token.elim store (store.put hostname as ·)).get? host name
        =
      if host = hostname ∧ name = as then token.or (store.get? host name) else store.get? host name := by
  cases token with
  | none => simp
  | some value => apply TokenStore.get?_put

theorem get?_handOver (t : Tokens) (store : TokenStore)
    : (t.handOver hostname store).get? host name
        =
      if host = hostname ∧ name = "keyManagerToken" then t.keyManager.or (store.get? host name)
      else if host = hostname ∧ name = "sessionToken" then t.session.or (store.get? host name)
      else store.get? host name := by
  unfold handOver
  dsimp only
  rw [get?_elim_put, get?_elim_put]
  split
  . next hkey =>
    rw [if_neg]
    intro hsession
    exact absurd (hkey.2.symm.trans hsession.2) (by decide)
  . rfl

theorem get?_handOver_session (t : Tokens) (store : TokenStore)
    : (t.handOver hostname store).get? hostname "sessionToken"
        =
      t.session.or (store.get? hostname "sessionToken") := by
  rw [get?_handOver, if_neg, if_pos ⟨rfl, rfl⟩]
  exact fun h => absurd h.2 (by decide)

theorem get?_handOver_keyManager (t : Tokens) (store : TokenStore)
    : (t.handOver hostname store).get? hostname "keyManagerToken"
        =
      t.keyManager.or (store.get? hostname "keyManagerToken") := by
  rw [get?_handOver, if_pos ⟨rfl, rfl⟩]

theorem get?_handOver_of_none {t : Tokens}
    (hsession : host = hostname → name = "sessionToken" → t.session = none)
    (hkey : host = hostname → name = "keyManagerToken" → t.keyManager = none)
    (store : TokenStore)
    : (t.handOver hostname store).get? host name = store.get? host name := by
  rw [get?_handOver]
  split
  . next h => rw [hkey h.1 h.2, Option.none_or]
  . split
    . next h => rw [hsession h.1 h.2, Option.none_or]
    . rfl

theorem get?_handOver_congr {t t' : Tokens}
    (h : ∀ kind : TokenKind, host = hostname → name = kind.headerName → t.get? kind = t'.get? kind)
    (store : TokenStore)
    : (t.handOver hostname store).get? host name = (t'.handOver hostname store).get? host name := by
  rw [get?_handOver, get?_handOver]
  split
  . next hkey => exact congrArg (Option.or · _) (h .keyManager hkey.1 hkey.2)
  . split
    . next hsession => exact congrArg (Option.or · _) (h .session hsession.1 hsession.2)
    . rfl

end Tokens

namespace Discovery

variable (settings : Settings) (e : Executor) (pod : Endpoint)

def sessionOutcome : Outcome :=
  (authScan e .session settings.name settings.domain {}).outcome

def sessionTokens : Tokens where
  session := resolvedToken? (sessionOutcome settings e)

def apiAnswer : Probe :=
  e.execute (sessionInfoProbe pod (sessionTokens settings e))

/-- Where the key manager is: the pod itself knows it best, then the login service; without both it is the relay. -/
def managerUrl : String :=
  let info := infoTold (e.execute (podInfoProbe pod))
  let checked := managerTold? (e.execute (checkAuthProbe pod (sessionTokens settings e)))
  (info.keyManagerUrl.or checked).getD (pod.baseUrl ++ relayPath)

def keyOutcome : Outcome :=
  match Url.splitHost? (managerUrl settings e pod) with
  | some (name, domain) => (authScan e .key name domain (sessionTokens settings e)).outcome
  | none => .notFound

def finalTokens : Tokens where
  session := resolvedToken? (sessionOutcome settings e)
  keyManager := resolvedToken? (keyOutcome settings e pod)

def agentOutcome : Outcome :=
  (agentScan settings e (finalTokens settings e pod)).outcome

def Findings.healthy (certificates : Harvest) (store : TokenStore) : Findings where
  configuration := { webUrl := some pod.baseUrl, podUrl := some pod.baseUrl, certificates }
  store := store

def managedConfiguration (certificates : Harvest) : Configuration where
  webUrl := some pod.baseUrl
  podUrl := some pod.baseUrl
  podApiUrl := if (apiAnswer settings e pod).isFailed then none else some (apiAnswer settings e pod).baseUrl
  keyManagerUrl := some (managerUrl settings e pod)
  sessionAuthUrl := (sessionOutcome settings e).url?
  podId := (infoTold (e.execute (podInfoProbe pod))).podId
  certificates := certificates

def Findings.managed (certificates : Harvest) (store : TokenStore) : Findings where
  configuration := managedConfiguration settings e pod certificates
  tokens := sessionTokens settings e
  store := (sessionTokens settings e).handOver settings.hostname store

def fullReport (health : Health) (certificates : Harvest) : Report where
  site := .platform
  configuration := { managedConfiguration settings e pod certificates with
    keyAuthUrl := (keyOutcome settings e pod).url?
    agentApiUrl := (agentOutcome settings e pod).url? }
  health := some health
  identity := identityTold? (apiAnswer settings e pod)
  tokens := finalTokens settings e pod

def ownProbes (tokens : Tokens) : List Probe :=
  [sessionInfoProbe pod tokens, checkAuthProbe pod tokens, podInfoProbe pod]

def keyProbes : List Probe :=
  match Url.splitHost? (managerUrl settings e pod) with
  | some (name, domain) => authProbes .key name domain (sessionTokens settings e)
  | none => []

def fullProbes : List Probe :=
  authProbes .session settings.name settings.domain {}
    ++ ownProbes pod (sessionTokens settings e)
    ++ keyProbes settings e pod
    ++ agentProbes settings (finalTokens settings e pod)

/-! ### After the health check -/

theorem tokens_concluded_session (o : Outcome)
    : (resolvedToken? o).elim {} (({} : Tokens).insert .session ·) = { session := resolvedToken? o } := by
  cases resolvedToken? o <;> rfl

theorem manager_concluded
    : let checked := managerTold? (e.execute (checkAuthProbe pod (sessionTokens settings e)))
      (infoTold (e.execute (podInfoProbe pod))).keyManagerUrl.or (some (checked.getD (pod.baseUrl ++ relayPath)))
        =
      some (managerUrl settings e pod) := by
  unfold managerUrl
  dsimp only
  cases (infoTold (e.execute (podInfoProbe pod))).keyManagerUrl <;> rfl

theorem keyOutcome_of_splitHost?_eq_none (h : Url.splitHost? (managerUrl settings e pod) = none)
    : keyOutcome settings e pod = .notFound := by
  unfold keyOutcome
  rw [h]

theorem keyOutcome_of_splitHost?_eq_some {name domain : String}
    (h : Url.splitHost? (managerUrl settings e pod) = some (name, domain))
    : keyOutcome settings e pod = (authScan e .key name domain (sessionTokens settings e)).outcome := by
  unfold keyOutcome
  rw [h]

theorem value_consultPod (c : Harvest) (store : TokenStore)
    : ∃ certificates, ((consultPod settings e pod).run (.healthy pod c store)).value
        =
      (identityTold? (apiAnswer settings e pod), .managed settings e pod certificates store) := by
  unfold consultPod Findings.healthy
  simp only [value_bind]
  rw [value_discoverAuth]
  dsimp only [Findings.concluded, Findings.absorbAll, AuthKind.record, AuthKind.token]
  rw [tokens_concluded_session, ← sessionOutcome, ← sessionTokens]
  rw [value_discoverPodApi]
  dsimp only [Findings.absorb]
  rw [value_checkAuth]
  dsimp only [Findings.absorb]
  rw [value_podInfo]
  dsimp only [Findings.absorb]
  rw [manager_concluded, Option.or_none]
  exact ⟨_, rfl⟩

theorem managerHost?_managed (c : Harvest) (store : TokenStore)
    : managerHost? (Findings.managed settings e pod c store).configuration
        =
      Url.splitHost? (managerUrl settings e pod) := by
  rfl

theorem value_discoverKeyAuth_managed (c : Harvest) (store : TokenStore)
    : ∃ certificates, ((discoverKeyAuth settings e).run (.managed settings e pod c store)).value.2
        =
      { Findings.managed settings e pod certificates store with
        configuration.keyAuthUrl := (keyOutcome settings e pod).url?
        tokens := finalTokens settings e pod
        store := (finalTokens settings e pod).handOver settings.hostname store } := by
  rw [value_discoverKeyAuth, managerHost?_managed]
  cases h : Url.splitHost? (managerUrl settings e pod) with
  | none =>
    have hkey := keyOutcome_of_splitHost?_eq_none settings e pod h
    refine ⟨c, ?_⟩
    unfold finalTokens
    rw [hkey]
    rfl
  | some host =>
    have hkey := keyOutcome_of_splitHost?_eq_some settings e pod h
    refine ⟨c.absorbAll (authScan e .key host.1 host.2 (sessionTokens settings e)).probes, ?_⟩
    dsimp only [Findings.concluded]
    rw [show (Findings.managed settings e pod c store).tokens = sessionTokens settings e from rfl, ← hkey]
    unfold Findings.managed finalTokens sessionTokens
    cases resolvedToken? (sessionOutcome settings e) <;> cases resolvedToken? (keyOutcome settings e pod) <;> rfl

theorem exchanges_discoverKeyAuth_managed (c : Harvest) (store : TokenStore)
    : ((discoverKeyAuth settings e).run (.managed settings e pod c store)).journal.exchanges
        =
      (keyProbes settings e pod).map e.exchange := by
  rw [exchanges_discoverKeyAuth, managerHost?_managed]
  unfold keyProbes
  cases Url.splitHost? (managerUrl settings e pod) <;> rfl

theorem value_exploreHealthy (health : Health) (c : Harvest) (store : TokenStore)
    : ∃ certificates, ((exploreHealthy settings e pod health).run (.healthy pod c store)).value
        =
      (fullReport settings e pod health certificates,
        { configuration := (fullReport settings e pod health certificates).configuration
          tokens := finalTokens settings e pod
          store := (finalTokens settings e pod).handOver settings.hostname store }) := by
  obtain ⟨c₁, hconsult⟩ := value_consultPod settings e pod c store
  obtain ⟨c₂, hkey⟩ := value_discoverKeyAuth_managed settings e pod c₁ store
  unfold exploreHealthy
  simp only [value_bind]
  rw [hconsult]
  dsimp only
  rw [hkey, value_discoverAgent]
  exact ⟨_, rfl⟩

/-! ### The exchanges after the health check -/

theorem tokens_discoverSession (c : Harvest) (store : TokenStore)
    : ((discoverAuth settings e .session settings.name settings.domain).run (.healthy pod c store)).value.2.tokens
        =
      sessionTokens settings e := by
  rw [value_discoverAuth]
  unfold sessionTokens
  rw [← tokens_concluded_session]
  rfl

theorem exchanges_consultPod (c : Harvest) (store : TokenStore)
    : ((consultPod settings e pod).run (.healthy pod c store)).journal.exchanges
        =
      (authProbes .session settings.name settings.domain {} ++ ownProbes pod (sessionTokens settings e)).map
        e.exchange := by
  unfold consultPod
  simp only [exchanges_bind]
  rw [exchanges_discoverAuth, exchanges_discoverPodApi, exchanges_checkAuth, exchanges_podInfo]
  rw [tokens_discoverPodApi, tokens_discoverSession]
  rw [List.map_append]
  rfl

theorem exchanges_exploreHealthy (health : Health) (c : Harvest) (store : TokenStore)
    : ((exploreHealthy settings e pod health).run (.healthy pod c store)).journal.exchanges
        =
      (fullProbes settings e pod).map e.exchange := by
  obtain ⟨c₁, hconsult⟩ := value_consultPod settings e pod c store
  obtain ⟨c₂, hkey⟩ := value_discoverKeyAuth_managed settings e pod c₁ store
  unfold exploreHealthy fullProbes
  simp only [exchanges_bind]
  rw [exchanges_consultPod, hconsult]
  dsimp only
  rw [exchanges_discoverKeyAuth_managed, hkey, exchanges_discoverAgent]
  simp [List.append_assoc]

/-! ### From the site to the end -/

def Findings.detected (pod : Option Endpoint) (certificates : Harvest) (store : TokenStore) : Findings where
  configuration := { webUrl := pod.map Endpoint.baseUrl, certificates }
  store := store

theorem findings_detectSite_run (store : TokenStore)
    : ∃ certificates,
        let r := ((detectSite settings e).run { store }).value
        r.2 = .detected r.1.2 certificates store := by
  obtain ⟨certificates, h⟩ := findings_detectSite settings e { store }
  refine ⟨certificates, h.trans ?_⟩
  dsimp only
  rw [Option.or_none]
  rfl

def podReport (certificates : Harvest) : Report :=
  match healthTold? (e.execute (healthProbe pod)) with
  | some health => fullReport settings e pod health certificates
  | none => { site := .platform, configuration := { webUrl := some pod.baseUrl, certificates } }

@[simp]
theorem site_podReport (c : Harvest) : (podReport settings e pod c).site = .platform := by
  unfold podReport
  split <;> rfl

@[simp]
theorem webUrl_podReport (c : Harvest)
    : (podReport settings e pod c).configuration.webUrl = some pod.baseUrl := by
  unfold podReport
  split <;> rfl

@[simp]
theorem health_podReport (c : Harvest)
    : (podReport settings e pod c).health = healthTold? (e.execute (healthProbe pod)) := by
  unfold podReport
  split
  . next h => rw [h]; rfl
  . next h => rw [h]

def podTokens : Tokens :=
  match healthTold? (e.execute (healthProbe pod)) with
  | some _ => finalTokens settings e pod
  | none => {}

theorem tokens_podReport (c : Harvest) : (podReport settings e pod c).tokens = podTokens settings e pod := by
  unfold podReport podTokens
  cases healthTold? (e.execute (healthProbe pod)) <;> rfl

def podProbes : List Probe :=
  match healthTold? (e.execute (healthProbe pod)) with
  | some _ => healthProbe pod :: fullProbes settings e pod
  | none => [healthProbe pod]

theorem podReport_of_healthTold? {health : Health}
    (h : healthTold? (e.execute (healthProbe pod)) = some health) (c : Harvest)
    : podReport settings e pod c = fullReport settings e pod health c := by
  unfold podReport
  rw [h]

theorem podProbes_of_healthTold? {health : Health} (h : healthTold? (e.execute (healthProbe pod)) = some health)
    : podProbes settings e pod = healthProbe pod :: fullProbes settings e pod := by
  unfold podProbes
  rw [h]

def siteReport (found : Site × Option Endpoint) (certificates : Harvest) : Report :=
  found.2.elim { site := found.1, configuration := { certificates } } (podReport settings e · certificates)

theorem value_checkHealth_detected (c : Harvest) (store : TokenStore)
    : ((checkHealth e pod).run (.detected (some pod) c store)).value
        =
      let c := c.absorb (e.execute (healthProbe pod))
      match healthTold? (e.execute (healthProbe pod)) with
      | some health => (some health, .healthy pod c store)
      | none => (none, .detected (some pod) c store) := by
  rw [value_checkHealth]
  rfl

theorem value_explorePod (c : Harvest) (store : TokenStore)
    : ∃ certificates,
        let r := ((explorePod settings e pod).run (.detected (some pod) c store)).value
        r.1 = podReport settings e pod certificates
          ∧ r.2.store = r.1.tokens.handOver settings.hostname store := by
  unfold explorePod podReport
  simp only [value_bind]
  rw [value_checkHealth_detected]
  dsimp only
  cases healthTold? (e.execute (healthProbe pod)) with
  | none => exact ⟨_, rfl, rfl⟩
  | some health =>
    dsimp only
    obtain ⟨certificates, h⟩ :=
      value_exploreHealthy settings e pod health (c.absorb (e.execute (healthProbe pod))) store
    rw [h]
    exact ⟨certificates, rfl, rfl⟩

theorem exchanges_explorePod (c : Harvest) (store : TokenStore)
    : ((explorePod settings e pod).run (.detected (some pod) c store)).journal.exchanges
        =
      (podProbes settings e pod).map e.exchange := by
  unfold explorePod podProbes
  simp only [exchanges_bind]
  rw [exchanges_checkHealth, value_checkHealth_detected]
  dsimp only
  cases healthTold? (e.execute (healthProbe pod)) with
  | none => rfl
  | some health =>
    dsimp only
    rw [exchanges_exploreHealthy]
    rfl

theorem value_run (store : TokenStore)
    : ∃ certificates,
        let r := (run settings e store).value
        r.1 = siteReport settings e ((detectSite settings e).run { store }).value.1 certificates
          ∧ r.2 = r.1.tokens.handOver settings.hostname store := by
  obtain ⟨c, hdetect⟩ := findings_detectSite_run settings e store
  unfold run explore
  simp only [Journaled.value_bind, value_bind]
  generalize ((detectSite settings e).run { store }).value = r at hdetect ⊢
  rcases r with ⟨⟨site, pod⟩, f⟩
  dsimp only at hdetect
  subst hdetect
  cases pod with
  | none => exact ⟨c, rfl, rfl⟩
  | some pod => exact value_explorePod settings e pod c store

theorem site_run (store : TokenStore)
    : (run settings e store).value.1.site = ((detectSite settings e).run { store }).value.1.1 := by
  obtain ⟨certificates, hreport, _⟩ := value_run settings e store
  have hplatform := isPlatform_detectSite settings e { store }
  rw [hreport]
  generalize ((detectSite settings e).run { store }).value.1 = found at hplatform ⊢
  rcases found with ⟨site, pod⟩
  cases pod with
  | none => rfl
  | some pod => exact (site_podReport settings e pod certificates).trans (hplatform.2 rfl).symm

theorem health_run (store : TokenStore)
    : (run settings e store).value.1.health
        =
      ((detectSite settings e).run { store }).value.1.2.bind fun pod =>
        healthTold? (e.execute (healthProbe pod)) := by
  obtain ⟨certificates, hreport, _⟩ := value_run settings e store
  rw [hreport]
  rcases ((detectSite settings e).run { store }).value.1 with ⟨site, pod⟩
  cases pod with
  | none => rfl
  | some pod => exact health_podReport settings e pod certificates

theorem tokens_run (store : TokenStore)
    : (run settings e store).value.1.tokens
        =
      ((detectSite settings e).run { store }).value.1.2.elim {} (podTokens settings e) := by
  obtain ⟨certificates, hreport, _⟩ := value_run settings e store
  rw [hreport]
  rcases ((detectSite settings e).run { store }).value.1 with ⟨site, pod⟩
  cases pod with
  | none => rfl
  | some pod => exact tokens_podReport settings e pod certificates

theorem exchanges_run (store : TokenStore)
    : (run settings e store).journal.exchanges
        =
      let detection := (detectSite settings e).run { store }
      detection.journal.exchanges ++ (detection.value.1.2.elim [] (podProbes settings e)).map e.exchange := by
  obtain ⟨c, hdetect⟩ := findings_detectSite_run settings e store
  unfold run explore
  simp only [Journaled.journal_bind, Journal.exchanges_append, exchanges_bind]
  generalize ((detectSite settings e).run { store }).value = r at hdetect ⊢
  rcases r with ⟨⟨site, pod⟩, f⟩
  dsimp only at hdetect
  subst hdetect
  cases pod with
  | none => simp
  | some pod => simp [exchanges_explorePod]

/-! ### How the site is found -/

/-- How the site and the pod of a run are found. A site without a pod ends the run and leaves only the certificates. -/
theorem resolved_run (store : TokenStore)
    : let detection := (detectSite settings e).run { store }
      let run := run settings e store
      ∃ pod probes further,
        Resolved settings e run.value.1.site pod probes
          ∧ detection.value.1 = (run.value.1.site, pod.map settings.endpoint)
          ∧ detection.journal.exchanges = probes.map e.exchange
          ∧ run.journal.exchanges = detection.journal.exchanges ++ further
          ∧ run.value.1.configuration.webUrl = pod.map (fun port => (settings.endpoint port).baseUrl)
          ∧ (run.value.1.site ≠ .platform →
              further = [] ∧ ∃ certificates, run.value.1.configuration = { certificates }) := by
  intro detection run
  obtain ⟨pod, probes, hresolved, hpod, hexchanges⟩ := resolved_detectSite settings e { store }
  obtain ⟨certificates, hreport, _⟩ := value_run settings e store
  have hsite := site_run settings e store
  have hrun := exchanges_run settings e store
  have hplatform := isPlatform_detectSite settings e { store }
  refine ⟨pod, probes, _, hsite ▸ hresolved, Prod.ext hsite.symm hpod, hexchanges, hrun, ?_, ?_⟩
  . rw [hreport, siteReport, hpod]
    cases pod with
    | none => rfl
    | some port => exact webUrl_podReport settings e (settings.endpoint port) certificates
  . intro hnot
    have hnone : detection.value.1.2 = none := by
      rw [hsite, ne_eq, hplatform] at hnot
      simpa using hnot
    rw [hreport, siteReport, hnone]
    exact ⟨rfl, certificates, rfl⟩

/-- The status alone does not make an answer a website: here the first one is malformed. -/
theorem site_run_malformed_ne
    : let settings : Settings := { name := "acme" }
      let malformed : Response :=
        { status := 200, contentType := some "application/json", body := "\x7bbad", chain := [] }
      let e := Executor.ofReplies
        [((plainProbe (settings.endpoint 443)).url, .response malformed)] (.failure .refused [])
      (∀ port ∈ podPorts, e.reply (siteProbe (settings.endpoint port)) = .failure .refused [])
        ∧ e.reply (plainProbe (settings.endpoint 443)) = .response malformed
        ∧ malformed.status = 200
        ∧ (run settings e []).value.1.site ≠ .nonSslWebsite := by
  intro settings malformed e
  refine ⟨?_, by simp [e, Executor.ofReplies], rfl, ?_⟩
  . intro port hport
    simp only [podPorts, List.mem_cons, List.not_mem_nil, or_false] at hport
    rcases hport with rfl | rfl <;> rfl
  . rw [site_run]
    decide

end Discovery

end PodProbe
