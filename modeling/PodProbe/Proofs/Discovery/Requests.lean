import PodProbe.Proofs.Discovery.Course
import PodProbe.Proofs.Endpoint.Origin
import PodProbe.Proofs.Probe.Attach

/-!
This module contains the requests of a run. After the detection of the site they follow from the report alone: no
answer leaves one out, repeats one or changes their order, except that the key manager decides on its own candidates.
-/

namespace PodProbe

theorem Executor.call_exchanges (e : Executor) (ps : List Probe)
    : (ps.map e.exchange).map (·.sent.call) = ps.map Probe.call := by
  rw [List.map_map]
  rfl

namespace Discovery

def posts (name domain : String) (ports : List UInt16) (basePath path : String) : List (Method × String) :=
  nameSuffixes.flatMap fun suffix => ports.map fun port =>
    (.post, ({ name, suffix, domain, port, basePath } : Endpoint).baseUrl ++ path)

def keyCalls : Option (String × String) → List (Method × String)
  | some (name, domain) => posts name domain authPorts "/keyauth" authenticatePath
  | none => []

def serviceCalls (settings : Settings) (web : String) (c : Configuration) : List (Method × String) :=
  posts settings.name settings.domain authPorts "/sessionauth" authenticatePath
    ++ [(.get, web ++ podApiBase ++ sessionInfoPath), (.get, web ++ checkAuthPath), (.get, web ++ podInfoPath)]
    ++ keyCalls (managerHost? c)
    ++ posts settings.name settings.domain agentPorts agentBase echoPath

/-- The requests of a run after the detection of the site. -/
def itinerary (settings : Settings) (report : Report) : List (Method × String) :=
  match report.site, report.configuration.webUrl with
  | .platform, some web =>
    (.get, web ++ healthCheckPath) ::
      if report.health.isSome then serviceCalls settings web report.configuration else []
  | _, _ => []

variable (settings : Settings) (e : Executor)

theorem calls_candidates {attempt : Endpoint → Probe} {path : String}
    (h : ∀ endpoint, (attempt endpoint).call = (.post, endpoint.baseUrl ++ path))
    (name domain : String) (ports : List UInt16) (basePath : String)
    : ((Endpoint.candidates name domain nameSuffixes ports basePath).map attempt).map Probe.call
        =
      posts name domain ports basePath path := by
  unfold Endpoint.candidates posts
  simp only [List.map_flatMap, List.map_map, Function.comp_def, h]

theorem calls_authProbes (kind : AuthKind) (name domain : String) (tokens : Tokens)
    : (authProbes kind name domain tokens).map Probe.call
        =
      posts name domain authPorts kind.basePath authenticatePath := by
  apply calls_candidates
  intro endpoint
  rw [Tokens.call_asHeaders, Tokens.call_asCookies]
  rfl

theorem calls_agentProbes (tokens : Tokens)
    : (agentProbes settings tokens).map Probe.call
        =
      posts settings.name settings.domain agentPorts agentBase echoPath := by
  apply calls_candidates
  intro endpoint
  rw [Tokens.call_asHeaders]
  rfl

theorem call_sessionInfoProbe (port : UInt16) (tokens : Tokens)
    : (sessionInfoProbe (settings.endpoint port) tokens).call
        =
      (.get, (settings.endpoint port).baseUrl ++ podApiBase ++ sessionInfoPath) := by
  unfold sessionInfoProbe
  rw [Tokens.call_asCookies, ← Endpoint.baseUrl_below _ rfl]
  rfl

theorem call_checkAuthProbe (pod : Endpoint) (tokens : Tokens)
    : (checkAuthProbe pod tokens).call = (.get, pod.baseUrl ++ checkAuthPath) := by
  unfold checkAuthProbe
  rw [Tokens.call_asCookies]
  rfl

theorem calls_fullProbes (port : UInt16) (health : Health) (certificates : Harvest)
    : let pod := settings.endpoint port
      (fullProbes settings e pod).map Probe.call
        =
      serviceCalls settings pod.baseUrl (fullReport settings e pod health certificates).configuration := by
  intro pod
  have hhost : managerHost? (fullReport settings e pod health certificates).configuration
      = Url.splitHost? (managerUrl settings e pod) := rfl
  unfold fullProbes serviceCalls
  rw [List.map_append, List.map_append, List.map_append, calls_authProbes, calls_agentProbes, hhost]
  congr
  . unfold ownProbes
    simp only [List.map_cons, List.map_nil]
    rw [call_sessionInfoProbe, call_checkAuthProbe]
    rfl
  . unfold keyProbes
    cases Url.splitHost? (managerUrl settings e pod) with
    | none => rfl
    | some host => apply calls_authProbes

theorem calls_podProbes (port : UInt16) (certificates : Harvest)
    : let pod := settings.endpoint port
      (podProbes settings e pod).map Probe.call
        =
      itinerary settings (podReport settings e pod certificates) := by
  intro pod
  unfold podProbes podReport
  split
  . next health _ =>
    rw [List.map_cons, calls_fullProbes settings e port health certificates]
    rfl
  . rfl

theorem calls_exchanges_run (store : TokenStore)
    : let run := run settings e store
      run.journal.exchanges.map (·.sent.call)
        =
      ((detectSite settings e).run { store }).journal.exchanges.map (·.sent.call)
        ++ itinerary settings run.value.1 := by
  obtain ⟨certificates, hreport, _⟩ := value_run settings e store
  have hpod := mem_endpoints_detectSite settings e { store }
  have hplatform := isPlatform_detectSite settings e { store }
  dsimp only
  rw [exchanges_run, List.map_append, e.call_exchanges, hreport]
  congr 1
  generalize ((detectSite settings e).run { store }).value.1 = found at hpod hplatform ⊢
  rcases found with ⟨site, pod⟩
  cases pod with
  | none =>
    unfold itinerary
    split
    . next web _ hweb => cases hweb
    . rfl
  | some pod =>
    obtain ⟨port, _, rfl⟩ := hpod pod rfl
    apply calls_podProbes

theorem calls_run_eq_itinerary (store : TokenStore)
    : let detection := (detectSite settings e).run { store }
      let run := run settings e store
      let report := run.value.1
      run.journal.exchanges.map (·.sent.call)
          = detection.journal.exchanges.map (·.sent.call) ++ itinerary settings report
        ∧ report.site = detection.value.1.1
        ∧ report.configuration.webUrl = detection.value.1.2.map Endpoint.baseUrl
        ∧ (report.site = .platform ↔ report.configuration.webUrl.isSome)
        ∧ report.health = detection.value.1.2.bind fun pod => healthTold? (e.execute (healthProbe pod)) := by
  intro detection run report
  refine ⟨calls_exchanges_run settings e store, ?_⟩
  obtain ⟨certificates, hreport, _⟩ := value_run settings e store
  have hplatform : detection.value.1.1 = .platform ↔ detection.value.1.2.isSome :=
    isPlatform_detectSite settings e { store }
  rw [show report = siteReport settings e detection.value.1 certificates from hreport]
  generalize detection.value.1 = found at hplatform ⊢
  rcases found with ⟨site, pod⟩
  cases pod with
  | none => exact ⟨rfl, rfl, hplatform, rfl⟩
  | some pod =>
    have hsite : site = .platform := hplatform.2 rfl
    simp [siteReport, hsite]

end Discovery

end PodProbe
