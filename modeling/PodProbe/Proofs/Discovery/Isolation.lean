import PodProbe.Proofs.Discovery.Credentials
import PodProbe.Proofs.Probe.Bare

/-!
This module contains how far the replies of one service reach. Two runs whose executors differ in nothing but the
replies of one service differ in nothing but what depends on that service.
-/

namespace PodProbe

/-! ### What answers tell, whatever is attached to them -/

theorem Probe.filter_map_bare {c : Probe → Bool} (hc : ∀ p : Probe, c p.bare = c p) (answers : List Probe)
    : (answers.map bare).filter c = (answers.filter c).map bare := by
  rw [List.filter_map]
  apply congrArg (List.map bare)
  apply List.filter_congr
  intro p _
  exact hc p

namespace Discovery

theorem preferredUrl_filter_bare {c : Probe → Bool} (hc : ∀ p : Probe, c p.bare = c p) (answers : List Probe)
    : preferredUrl ((answers.map Probe.bare).filter c) (Scan.demanding (answers.map Probe.bare))
        =
      preferredUrl (answers.filter c) (Scan.demanding answers) := by
  unfold Scan.demanding
  rw [Probe.filter_map_bare hc, Probe.filter_map_bare fun _ => rfl]
  apply preferredUrl_map
  . exact fun _ => rfl
  . exact fun _ => rfl

theorem soleOffer?_map_bare (answers : List Probe) : soleOffer? (answers.map Probe.bare) = soleOffer? answers := by
  unfold soleOffer? offering
  rw [Probe.filter_map_bare fun _ => rfl]
  generalize answers.filter (fun p => p.offer?.isSome) = offers
  match offers with
  | [] => rfl
  | [_] => rfl
  | _ :: _ :: _ => rfl

theorem Concludes.congr {answers answers' : List Probe} {url url' token token' : Option String}
    (h : Concludes answers url token) (h' : Concludes answers' url' token')
    (hbare : answers.map Probe.bare = answers'.map Probe.bare)
    : url = url' ∧ token = token' := by
  constructor
  . rw [h.url_eq, h'.url_eq]
    unfold offering
    rw [← preferredUrl_filter_bare fun _ => rfl, hbare, preferredUrl_filter_bare fun _ => rfl]
  . rw [h.token_eq, h'.token_eq, ← soleOffer?_map_bare, hbare, soleOffer?_map_bare]

/-! ### What requests ask, whatever is attached to them -/

theorem bare_authProbes (kind : AuthKind) (name domain : String) (tokens : Tokens)
    : (authProbes kind name domain tokens).map Probe.bare = authProbes kind name domain {} := by
  unfold authProbes
  rw [List.map_map]
  apply List.map_congr_left
  intro endpoint _
  change Probe.bare (tokens.asHeaders _) = _
  rw [Probe.bare_asHeaders, Probe.bare_asCookies]
  rfl

theorem bare_agentProbes (settings : Settings) (tokens : Tokens)
    : (agentProbes settings tokens).map Probe.bare = agentProbes settings {} := by
  unfold agentProbes
  rw [List.map_map]
  apply List.map_congr_left
  intro endpoint _
  change Probe.bare (tokens.asHeaders _) = _
  rw [Probe.bare_asHeaders]
  rfl

theorem bare_keyProbes (settings : Settings) (e : Executor) (pod : Endpoint)
    : (keyProbes settings e pod).map Probe.bare
        =
      match Url.splitHost? (managerUrl settings e pod) with
      | some (name, domain) => authProbes .key name domain {}
      | none => [] := by
  unfold keyProbes
  cases Url.splitHost? (managerUrl settings e pod) with
  | none => rfl
  | some host => apply bare_authProbes

/-! ### What each part of a run depends on -/

/-- Whether two executors differ in nothing but the replies at the URLs of a service. -/
def AgreeOff (s : Service) (e e' : Executor) : Prop :=
  ∀ p : Probe, ¬ s.Owns p.url → e.reply p = e'.reply p

theorem agreeOff_ofReplies {s : Service} {url : String} (hurl : s.Owns url) (r : Reply)
    (replies : List (String × Reply)) (fallback : Reply)
    : AgreeOff s (.ofReplies replies fallback) (.ofReplies ((url, r) :: replies) fallback) := by
  intro p hp
  have hne : p.url ≠ url := by
    intro heq
    rw [heq] at hp
    exact hp hurl
  unfold Executor.ofReplies
  dsimp only
  rw [List.lookup_cons, beq_false_of_ne hne]

section

variable {e e' : Executor} {s : Service} (settings : Settings) (h : AgreeOff s e e')
include h

theorem AgreeOff.execute_eq {p : Probe} (hp : Errand.Foreign s p)
    : e.execute p = e'.execute p := by
  unfold Executor.execute
  rw [h p hp.not_owns]

theorem AgreeOff.answers_eq {ps : List Probe} (hps : ∀ p ∈ ps, Errand.Foreign s p)
    : ps.map e.execute = ps.map e'.execute := by
  apply List.map_congr_left
  intro p hp
  exact h.execute_eq (hps p hp)

theorem detectSite_congr (f g : Findings)
    : ((detectSite settings e).run f).value.1 = ((detectSite settings e').run g).value.1 := by
  refine (alike_detectSite ?_ f g).1
  intro p hp
  exact h p ((preliminary_siteProbes hp).foreign s).not_owns

theorem healthAnswer_congr (port : UInt16)
    : e.execute (healthProbe (settings.endpoint port)) = e'.execute (healthProbe (settings.endpoint port)) :=
  h.execute_eq ((preliminary_healthProbe port).foreign s)

theorem sessionOutcome_congr (hs : s ≠ .sessionAuth)
    : sessionOutcome settings e = sessionOutcome settings e' := by
  unfold sessionOutcome authScan
  rw [Scan.outcome_ofAttempts, Scan.outcome_ofAttempts, h.answers_eq]
  intro p hp
  exact Errand.foreign_of_asks (Errand.asks_authProbes .session hp) hs.symm

theorem apiAnswer_congr (hauth : s ≠ .sessionAuth) (hinfo : s ≠ .sessionInfo) (port : UInt16)
    : apiAnswer settings e (settings.endpoint port) = apiAnswer settings e' (settings.endpoint port) := by
  unfold apiAnswer sessionTokens
  rw [sessionOutcome_congr settings h hauth, h.execute_eq]
  exact Errand.foreign_of_asks (Errand.asks_sessionInfoProbe settings port _) hinfo.symm

theorem infoAnswer_congr (hs : s ≠ .podInfo) (port : UInt16)
    : e.execute (podInfoProbe (settings.endpoint port)) = e'.execute (podInfoProbe (settings.endpoint port)) :=
  h.execute_eq (Errand.foreign_of_asks (Errand.asks_podInfoProbe settings port) hs.symm)

-- From here on the sessions may differ, so that requests carry different tokens to the same URLs.
variable (he : e.KeyedByUrl)
include he

theorem managerTold?_congr (hs : s ≠ .checkAuth) (port : UInt16) (tokens tokens' : Tokens)
    : let pod := settings.endpoint port
      managerTold? (e.execute (checkAuthProbe pod tokens)) = managerTold? (e'.execute (checkAuthProbe pod tokens')) := by
  intro pod
  have hforeign : Errand.Foreign s (checkAuthProbe pod tokens') :=
    Errand.foreign_of_asks (Errand.asks_checkAuthProbe settings port tokens') hs.symm
  have hbare : (checkAuthProbe pod tokens).bare = (checkAuthProbe pod tokens').bare := by
    unfold checkAuthProbe
    rw [Probe.bare_asCookies, Probe.bare_asCookies]
  have htold := congrArg managerTold? (Executor.bare_execute_congr he hbare (h _ hforeign.not_owns))
  exact htold

theorem managerUrl_congr (hcheck : s ≠ .checkAuth) (hinfo : s ≠ .podInfo) (port : UInt16)
    : managerUrl settings e (settings.endpoint port) = managerUrl settings e' (settings.endpoint port) := by
  unfold managerUrl
  rw [infoAnswer_congr settings h hinfo, managerTold?_congr settings h he hcheck]

theorem keyOutcome_congr (hcheck : s ≠ .checkAuth) (hinfo : s ≠ .podInfo)
    (hkey : s ≠ .keyAuth) (port : UInt16)
    : (keyOutcome settings e (settings.endpoint port)).url? = (keyOutcome settings e' (settings.endpoint port)).url?
        ∧ resolvedToken? (keyOutcome settings e (settings.endpoint port))
          = resolvedToken? (keyOutcome settings e' (settings.endpoint port)) := by
  refine (concludes_key settings e _).congr (concludes_key settings e' _) (Executor.bare_answers_congr he ?_ ?_)
  . rw [bare_keyProbes, bare_keyProbes, managerUrl_congr settings h he hcheck hinfo]
  . intro p hp
    exact h p (Errand.foreign_of_asks (Errand.asks_keyProbes hp) hkey.symm).not_owns

theorem agentUrl_congr (hs : s ≠ .agent) (pod : Endpoint)
    : (agentOutcome settings e pod).url? = (agentOutcome settings e' pod).url? := by
  have hbare := Executor.bare_answers_congr he
    ((bare_agentProbes settings (finalTokens settings e pod)).trans
      (bare_agentProbes settings (finalTokens settings e' pod)).symm)
    fun p hp => h p (Errand.foreign_of_asks (Errand.asks_agentProbes hp) hs.symm).not_owns
  rw [url?_agentOutcome, url?_agentOutcome]
  unfold usable
  rw [← preferredUrl_filter_bare fun _ => rfl, hbare, preferredUrl_filter_bare fun _ => rfl]

end

/-! ### What the replies of a service may change -/

namespace Service

/-- The token that depends on a service. -/
def token? : Service → Option TokenKind
  | sessionAuth => some .session
  | sessionInfo => none
  | checkAuth => some .keyManager
  | podInfo => some .keyManager
  | keyAuth => some .keyManager
  | agent => none

/-- A report without what depends on a service, and without the certificates. -/
def blank (s : Service) (r : Report) : Report :=
  let r := { r with configuration.certificates := {} }
  match s with
  | sessionAuth => { r with
    configuration.sessionAuthUrl := none
    configuration.podApiUrl := none
    identity := none
    tokens.session := none }
  | sessionInfo => { r with
    configuration.podApiUrl := none
    identity := none }
  | checkAuth => { r with
    configuration.keyManagerUrl := none
    configuration.keyAuthUrl := none
    tokens.keyManager := none }
  | podInfo => { r with
    configuration.podId := none
    configuration.keyManagerUrl := none
    configuration.keyAuthUrl := none
    tokens.keyManager := none }
  | keyAuth => { r with
    configuration.keyAuthUrl := none
    tokens.keyManager := none }
  | agent => { r with configuration.agentApiUrl := none }

end Service

/-- The parts of two reports that agree because they do not depend on a service. -/
structure Undisturbed (s : Service) (a b : Report) : Prop where
  site_eq : a.site = b.site
  webUrl_eq : a.configuration.webUrl = b.configuration.webUrl
  podUrl_eq : a.configuration.podUrl = b.configuration.podUrl
  rootFingerprints_eq : a.configuration.rootFingerprints = b.configuration.rootFingerprints
  serverFingerprints_eq : a.configuration.serverFingerprints = b.configuration.serverFingerprints
  health_eq : a.health = b.health
  sessionAuthUrl_eq : s ≠ .sessionAuth → a.configuration.sessionAuthUrl = b.configuration.sessionAuthUrl
  session_eq : s ≠ .sessionAuth → a.tokens.session = b.tokens.session
  podApiUrl_eq : s ≠ .sessionAuth → s ≠ .sessionInfo → a.configuration.podApiUrl = b.configuration.podApiUrl
  identity_eq : s ≠ .sessionAuth → s ≠ .sessionInfo → a.identity = b.identity
  podId_eq : s ≠ .podInfo → a.configuration.podId = b.configuration.podId
  keyManagerUrl_eq : s ≠ .checkAuth → s ≠ .podInfo → a.configuration.keyManagerUrl = b.configuration.keyManagerUrl
  keyAuthUrl_eq : s ≠ .checkAuth → s ≠ .podInfo → s ≠ .keyAuth →
    a.configuration.keyAuthUrl = b.configuration.keyAuthUrl
  keyManager_eq : s ≠ .checkAuth → s ≠ .podInfo → s ≠ .keyAuth → a.tokens.keyManager = b.tokens.keyManager
  agentApiUrl_eq : s ≠ .agent → a.configuration.agentApiUrl = b.configuration.agentApiUrl

section

variable {s : Service}

theorem Undisturbed.blank_eq {a b : Report} (h : Undisturbed s a b) : s.blank a = s.blank b := by
  -- What no service decides on is the same in both, so that only the other parts are left to compare.
  rcases a with ⟨_, ⟨_, _, _, _, _, _, _, _, _, _, _⟩, _, _, ⟨_, _⟩⟩
  rcases b with ⟨_, ⟨_, _, _, _, _, _, _, _, _, _, _⟩, _, _, ⟨_, _⟩⟩
  obtain ⟨rfl, rfl, rfl, rfl, rfl, rfl, hsessionAuth, hsession, hpodApi, hidentity, hpodId, hmanager, hkeyAuth, hkey,
    hagent⟩ := h
  cases s <;> simp_all [Service.blank]

theorem undisturbed_website (site : Site) (web : Option String) (c c' : Harvest)
    : Undisturbed s { site, configuration := { webUrl := web, certificates := c } }
        { site, configuration := { webUrl := web, certificates := c' } } := by
  constructor
  all_goals
    intros
    rfl

variable (settings : Settings) {e e' : Executor}

theorem undisturbed_fullReport (he : e.KeyedByUrl) (h : AgreeOff s e e') (port : UInt16) (health : Health)
    (c c' : Harvest)
    : Undisturbed s (fullReport settings e (settings.endpoint port) health c)
        (fullReport settings e' (settings.endpoint port) health c') := by
  unfold fullReport managedConfiguration finalTokens
  constructor
  all_goals dsimp only
  case sessionAuthUrl_eq =>
    intro hs
    rw [sessionOutcome_congr settings h hs]
  case session_eq =>
    intro hs
    rw [sessionOutcome_congr settings h hs]
  case podApiUrl_eq =>
    intro hauth hinfo
    rw [apiAnswer_congr settings h hauth hinfo]
  case identity_eq =>
    intro hauth hinfo
    rw [apiAnswer_congr settings h hauth hinfo]
  case podId_eq =>
    intro hinfo
    rw [infoAnswer_congr settings h hinfo]
  case keyManagerUrl_eq =>
    intro hcheck hinfo
    rw [managerUrl_congr settings h he hcheck hinfo]
  case keyAuthUrl_eq =>
    intro hcheck hinfo hkey
    exact (keyOutcome_congr settings h he hcheck hinfo hkey port).1
  case keyManager_eq =>
    intro hcheck hinfo hkey
    exact (keyOutcome_congr settings h he hcheck hinfo hkey port).2
  case agentApiUrl_eq =>
    intro hagent
    exact agentUrl_congr settings h he hagent _

theorem undisturbed_podReport (he : e.KeyedByUrl) (h : AgreeOff s e e') (port : UInt16) (c c' : Harvest)
    : let pod := settings.endpoint port
      Undisturbed s (podReport settings e pod c) (podReport settings e' pod c') := by
  intro pod
  unfold podReport
  rw [healthAnswer_congr settings h port]
  cases healthTold? (e'.execute (healthProbe pod)) with
  | none => apply undisturbed_website
  | some health => exact undisturbed_fullReport settings he h port health c c'

theorem undisturbed_run (he : e.KeyedByUrl) (h : AgreeOff s e e') (store : TokenStore)
    : Undisturbed s (run settings e store).value.1 (run settings e' store).value.1 := by
  obtain ⟨c, hreport, _⟩ := value_run settings e store
  obtain ⟨c', hreport', _⟩ := value_run settings e' store
  have hpod := mem_endpoints_detectSite settings e' { store }
  rw [hreport, hreport', detectSite_congr settings h { store } { store }]
  generalize ((detectSite settings e').run { store }).value.1 = found at hpod
  rcases found with ⟨site, pod⟩
  cases pod with
  | none => apply undisturbed_website
  | some pod =>
    obtain ⟨port, _, rfl⟩ := hpod pod rfl
    exact undisturbed_podReport settings he h port c c'

theorem Undisturbed.token_eq {a b : Report} (h : Undisturbed s a b) {kind : TokenKind} (hkind : kind ∉ s.token?)
    : a.tokens.get? kind = b.tokens.get? kind := by
  cases kind with
  | session =>
    apply h.session_eq
    rintro rfl
    exact hkind rfl
  | keyManager =>
    apply h.keyManager_eq
    all_goals
      rintro rfl
      exact hkind rfl

/-- Whether two results of runs agree in what does not depend on a service. -/
structure Isolated (s : Service) (settings : Settings) (a b : Report × TokenStore) : Prop where
  report_eq : s.blank a.1 = s.blank b.1
  entry_eq : ∀ host name, ¬ (host = settings.hostname ∧ ∃ kind ∈ s.token?, name = kind.headerName) →
    a.2.get? host name = b.2.get? host name

theorem isolated_run (he : e.KeyedByUrl) (h : AgreeOff s e e') (store : TokenStore)
    : Isolated s settings (run settings e store).value (run settings e' store).value := by
  have hreports := undisturbed_run settings he h store
  obtain ⟨_, _, hstore⟩ := value_run settings e store
  obtain ⟨_, _, hstore'⟩ := value_run settings e' store
  constructor
  case report_eq => exact hreports.blank_eq
  case entry_eq =>
    intro host name hother
    rw [hstore, hstore']
    apply Tokens.get?_handOver_congr
    intro kind hhost hname
    apply hreports.token_eq
    intro hkind
    exact hother ⟨hhost, kind, hkind, hname⟩

theorem isolated_run_acme
    : let settings : Settings := { name := "acme" }
      let page : Response := { status := 200, contentType := some "text/html", body := "", chain := [] }
      let healthy : Response := { page with contentType := some "application/json", body := "\x7b\x7d" }
      let hostile : Response := { healthy with body := "\x7b\"token\": \"forged\"\x7d" }
      let replies := [((healthProbe (settings.endpoint 443)).url, Reply.response healthy)]
      let login := "https://acme.symphony.com:8444/sessionauth/v1/authenticate"
      let e := Executor.ofReplies replies (.response page)
      let e' := Executor.ofReplies ((login, .response hostile) :: replies) (.response page)
      e.KeyedByUrl ∧ AgreeOff .sessionAuth e e'
        ∧ Isolated .sessionAuth settings (run settings e []).value (run settings e' []).value := by
  intro settings page healthy hostile replies login e e'
  have he : e.KeyedByUrl := Executor.keyedByUrl_ofReplies replies _
  have h : AgreeOff .sessionAuth e e' := agreeOff_ofReplies (by decide) _ _ _
  exact ⟨he, h, isolated_run settings he h []⟩

end

end Discovery

end PodProbe
