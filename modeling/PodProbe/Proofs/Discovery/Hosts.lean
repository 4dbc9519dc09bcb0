import PodProbe.Proofs.Discovery.Answers
import PodProbe.Proofs.Discovery.Credentials
import PodProbe.Proofs.Discovery.Requests
import PodProbe.Proofs.Url.Split

/-!
This module contains where a run asks for a token of the key manager. All that counts of its URL is the host: it is cut
in two at the first dot for the suffix of the candidates to go between, and where there is none nobody is asked.
-/

namespace PodProbe

def Journal.requestsTo (j : Journal) (s : Discovery.Service) : List Probe :=
  (j.exchanges.map Exchange.sent).filter fun p => s.Owns p.url

namespace Discovery

/-! ### The requests to a service -/

section

variable {s : Service} {ps : List Probe}

theorem owned_of_foreign (h : ∀ p ∈ ps, Errand.Foreign s p) : ps.filter (fun p => s.Owns p.url) = [] := by
  rw [List.filter_eq_nil_iff]
  intro p hp
  simpa using (h p hp).not_owns

theorem owned_of_asks {s' : Service} (h : ∀ p ∈ ps, (Errand.service s').Asks p) (s : Service)
    : ps.filter (fun p => s.Owns p.url) = if s' = s then ps else [] := by
  split
  . next heq =>
    rw [List.filter_eq_self]
    intro p hp
    rw [decide_eq_true_iff, (h p hp).owns_iff, heq]
  . next hne => exact owned_of_foreign fun p hp => Errand.foreign_of_asks (h p hp) hne

end

variable (settings : Settings) (e : Executor)

theorem requestsTo_of_exchanges_eq {j : Journal} {ps : List Probe} {port : UInt16}
    (hps : ∀ p ∈ ps, p ∈ clientProbes settings podPorts ++ plainProbes settings podPorts)
    (h : j.exchanges
      = (ps ++ healthProbe (settings.endpoint port) :: fullProbes settings e (settings.endpoint port)).map e.exchange)
    : let pod := settings.endpoint port
      j.requestsTo .sessionAuth = authProbes .session settings.name settings.domain {}
        ∧ j.requestsTo .keyAuth = keyProbes settings e pod
        ∧ j.requestsTo .agent = agentProbes settings (finalTokens settings e pod) := by
  intro pod
  have hsent : j.exchanges.map Exchange.sent = ps ++ [healthProbe pod] ++ fullProbes settings e pod := by
    rw [h, List.map_map, List.append_assoc]
    exact List.map_id _
  have hsite (s : Service) : ∀ p ∈ ps ++ [healthProbe pod], Errand.Foreign s p := by
    rw [List.forall_mem_append, List.forall_mem_singleton]
    refine ⟨?_, (preliminary_healthProbe port).foreign s⟩
    intro p hp
    exact (preliminary_siteProbes (hps p hp)).foreign s
  have howned {s : Service} (hs : s ∉ [Service.sessionInfo, .checkAuth, .podInfo])
      : j.requestsTo s
        =
      (if .sessionAuth = s then authProbes .session settings.name settings.domain {} else [])
        ++ (if .keyAuth = s then keyProbes settings e pod else [])
        ++ (if .agent = s then agentProbes settings (finalTokens settings e pod) else []) := by
    unfold Journal.requestsTo
    rw [hsent, List.filter_append, owned_of_foreign (hsite s), List.nil_append]
    unfold fullProbes
    rw [List.filter_append, List.filter_append, List.filter_append]
    rw [owned_of_foreign fun p hp => Errand.foreign_ownProbes hp hs, List.append_nil]
    rw [owned_of_asks fun p hp => Errand.asks_authProbes .session hp]
    rw [owned_of_asks fun p hp => Errand.asks_keyProbes hp]
    rw [owned_of_asks fun p hp => Errand.asks_agentProbes hp]
    rfl
  refine ⟨?_, ?_, ?_⟩
  . simpa using howned (s := .sessionAuth) (by decide)
  . simpa using howned (s := .keyAuth) (by decide)
  . simpa using howned (s := .agent) (by decide)

/-! ### The hosts of the key manager -/

def authenticateAt (host : String) : List (Method × String) :=
  [8444, 8445, 8446].map fun port : Nat =>
    (.post, "https://" ++ host ++ ":" ++ toString port ++ "/keyauth/v1/authenticate")

/-- Whom a run asks for a token of the key manager with a URL, and that it asks for an agent in any case. -/
structure Locates (settings : Settings) (run : Journaled (Report × TokenStore)) (url : String) : Prop where
  of_host : ∀ host, Url.hostText? url = some host → ∃ name rest, Url.CutAtDot host name rest
    ∧ (run.journal.requestsTo .keyAuth).map Probe.call
        = authenticateAt (name ++ "-api" ++ rest) ++ authenticateAt host
  of_no_host : Url.hostText? url = none →
    run.journal.requestsTo .keyAuth = [] ∧ run.value.1.configuration.keyAuthUrl = none
  agent_eq : (run.journal.requestsTo .agent).map Probe.call
    = posts settings.name settings.domain agentPorts agentBase echoPath

theorem posts_keyAuth (name domain : String)
    : posts name domain authPorts "/keyauth" authenticatePath
        =
      authenticateAt (name ++ "-api" ++ domain) ++ authenticateAt (name ++ domain) := by
  unfold posts authenticateAt
  simp [nameSuffixes, authPorts, authenticatePath, Endpoint.baseUrl, Endpoint.host, Endpoint.portText, Scheme.text,
    Scheme.defaultPort, String.append_assoc]

theorem calls_keyProbes {pod : Endpoint} {host name rest : String}
    (hhost : Url.hostText? (managerUrl settings e pod) = some host) (hcut : Url.CutAtDot host name rest)
    : (keyProbes settings e pod).map Probe.call
        =
      authenticateAt (name ++ "-api" ++ rest) ++ authenticateAt host := by
  unfold keyProbes
  rw [Url.splitHost?_eq_some_iff.2 ⟨host, hhost, hcut⟩, ← hcut.append_eq, ← posts_keyAuth]
  apply calls_authProbes

theorem keyManagerUrl_run (store : TokenStore)
    : (run settings e store).value.1.configuration.keyManagerUrl
        =
      ((detectSite settings e).run { store }).value.1.2.bind fun pod =>
        (healthTold? (e.execute (healthProbe pod))).map fun _ => managerUrl settings e pod := by
  rcases value_run settings e store with ⟨certificates, hreport, _⟩
  rw [hreport]
  rcases ((detectSite settings e).run { store }).value.1 with ⟨site, pod⟩
  cases pod with
  | none => rfl
  | some pod =>
    change (podReport settings e pod certificates).configuration.keyManagerUrl = Option.map _ _
    unfold podReport
    cases healthTold? (e.execute (healthProbe pod)) <;> rfl

theorem isSome_health_of_keyManagerUrl {store : TokenStore} {url : String}
    (h : (run settings e store).value.1.configuration.keyManagerUrl = some url)
    : (run settings e store).value.1.health.isSome := by
  rw [keyManagerUrl_run] at h
  rcases Option.bind_eq_some_iff.1 h with ⟨pod, hpod, h⟩
  rcases Option.map_eq_some_iff.1 h with ⟨health, hhealth, _⟩
  rw [health_run, hpod, Option.bind_some, hhealth]
  rfl

theorem locates_run (store : TokenStore) {url : String}
    (h : (run settings e store).value.1.configuration.keyManagerUrl = some url)
    : Locates settings (run settings e store) url := by
  have hhealth := isSome_health_of_keyManagerUrl settings e h
  rcases run_of_health settings e store hhealth with ⟨port, health, certificates, ps, hps, hvalue, hexchanges⟩
  rcases requestsTo_of_exchanges_eq settings e hps hexchanges with ⟨_, hkey, hagent⟩
  have hurl : managerUrl settings e (settings.endpoint port) = url := by
    rw [hvalue] at h
    exact Option.some.inj h
  constructor
  case of_host =>
    intro host hhost
    rcases Url.exists_cutAtDot host with ⟨name, rest, hcut⟩
    rw [← hurl] at hhost
    exact ⟨name, rest, hcut, hkey ▸ calls_keyProbes settings e hhost hcut⟩
  case of_no_host =>
    intro hnone
    rw [← hurl, ← Url.splitHost?_eq_none_iff] at hnone
    rw [hkey, hvalue]
    unfold keyProbes
    rw [hnone]
    refine ⟨rfl, ?_⟩
    exact congrArg Outcome.url? (keyOutcome_of_splitHost?_eq_none settings e _ hnone)
  case agent_eq =>
    rw [hagent]
    apply calls_agentProbes

theorem locates_run_acme
    : let settings : Settings := { name := "acme" }
      let page : Response := { status := 200, contentType := some "text/html", body := "", chain := [] }
      let told (body : String) : Response :=
        { status := 200, contentType := some "application/json", body, chain := [] }
      let pod := settings.endpoint 443
      let e := Executor.ofReplies
        [((healthProbe pod).url, .response (told "\x7b\x7d")),
         ((checkAuthProbe pod {}).url, .response (told "\x7b\x22keymanagerUrl\x22:\x22http://me@[::1]:81/?\x22\x7d"))]
        (.response page)
      (run settings e []).value.1.configuration.keyManagerUrl = some "http://me@[::1]:81/?"
        ∧ Url.hostText? "http://me@[::1]:81/?" = some "[::1]"
        ∧ Locates settings (run settings e []) "http://me@[::1]:81/?" := by
  intro settings page told pod e
  have h : (run settings e []).value.1.configuration.keyManagerUrl = some "http://me@[::1]:81/?" := by
    rw [keyManagerUrl_run]
    decide +kernel
  exact ⟨h, by decide +kernel, locates_run settings e [] h⟩

end Discovery

end PodProbe
