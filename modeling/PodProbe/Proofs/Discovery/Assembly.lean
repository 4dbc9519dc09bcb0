import PodProbe.Proofs.Discovery.Course
import PodProbe.Proofs.Endpoint.Origin
import PodProbe.Proofs.Probe.Attach

/-!
This module contains that no run leaves a report half assembled, wherever it stops: what depends on another part of
the report is only there together with that part, and without a health report there is nothing but the website.
-/

namespace PodProbe.Discovery

theorem isSome_url?_of_resolvedToken? {o : Outcome} (h : (resolvedToken? o).isSome) : o.url?.isSome := by
  cases o with
  | found p => rfl
  | _ => cases h

theorem isFailed_of_identityTold? {p : Probe} (h : (identityTold? p).isSome) : p.isFailed = false := by
  unfold identityTold? at h
  split at h
  . cases h
  . next hfailed => exact eq_false_of_ne_true hfailed

variable (settings : Settings) (e : Executor)

theorem baseUrl_apiAnswer (port : UInt16)
    : (apiAnswer settings e (settings.endpoint port)).baseUrl = (settings.endpoint port).baseUrl ++ podApiBase := by
  unfold apiAnswer Probe.baseUrl sessionInfoProbe
  rw [Executor.endpoint_execute, Tokens.endpoint_asCookies]
  apply (settings.endpoint port).baseUrl_below
  rfl

/-- What holds of a report together with the store that the run was given and the one that it leaves. -/
structure Assembled (given left : TokenStore) (r : Report) : Prop where
  isUsable_iff : r.isUsable ↔ r.site = .platform
  platform_iff : r.site = .platform ↔ r.configuration.webUrl.isSome
  isEmpty_iff : r.configuration.webUrl.isSome ↔ r.configuration.isEmpty = false
  health_iff : r.health.isSome ↔ r.configuration.podUrl.isSome
  podUrl_iff : r.configuration.podUrl.isSome ↔ r.configuration.keyManagerUrl.isSome
  podUrl_eq : r.health.isSome → r.configuration.podUrl = r.configuration.webUrl
  of_health_eq_none : r.health = none →
    r.configuration.podApiUrl = none ∧ r.configuration.sessionAuthUrl = none ∧ r.configuration.keyAuthUrl = none
      ∧ r.configuration.agentApiUrl = none ∧ r.configuration.podId = none ∧ r.identity = none
      ∧ r.tokens = {} ∧ left = given
  podApiUrl_eq : r.configuration.podApiUrl = none ∨ r.configuration.podApiUrl = r.configuration.webUrl.map (· ++ "/pod")
  podApiUrl_of_identity : r.identity.isSome → r.configuration.podApiUrl.isSome
  sessionAuthUrl_of_token : r.tokens.session.isSome → r.configuration.sessionAuthUrl.isSome
  keyAuthUrl_of_token : r.tokens.keyManager.isSome → r.configuration.keyAuthUrl.isSome

theorem isUsable_iff (r : Report) : r.isUsable ↔ r.site = .platform := by
  unfold Report.isUsable
  apply beq_iff_eq

theorem assembled_website {site : Site} {web : Option String} (h : site = .platform ↔ web.isSome)
    (certificates : Harvest) (store : TokenStore)
    : Assembled store store { site, configuration := { webUrl := web, certificates } } := by
  constructor
  case isUsable_iff => apply isUsable_iff
  case platform_iff => exact h
  case isEmpty_iff => cases web <;> simp [Configuration.isEmpty]
  case of_health_eq_none =>
    intro _
    exact ⟨rfl, rfl, rfl, rfl, rfl, rfl, rfl, rfl⟩
  case podApiUrl_eq => exact Or.inl rfl
  all_goals simp

theorem assembled_fullReport (port : UInt16) (health : Health) (certificates : Harvest) (store : TokenStore)
    : let report := fullReport settings e (settings.endpoint port) health certificates
      Assembled store (report.tokens.handOver settings.hostname store) report := by
  intro report
  constructor
  case isUsable_iff => apply isUsable_iff
  case platform_iff => exact iff_of_true rfl rfl
  case isEmpty_iff => exact iff_of_true rfl rfl
  case health_iff => exact iff_of_true rfl rfl
  case podUrl_iff => exact iff_of_true rfl rfl
  case podUrl_eq =>
    intro _
    rfl
  case of_health_eq_none =>
    intro h
    cases h
  case podApiUrl_eq =>
    cases hfailed : (apiAnswer settings e (settings.endpoint port)).isFailed with
    | true =>
      left
      exact if_pos hfailed
    | false =>
      right
      refine (if_neg (ne_true_of_eq_false hfailed)).trans ?_
      rw [baseUrl_apiAnswer]
      rfl
  case podApiUrl_of_identity =>
    intro h
    have hfailed := isFailed_of_identityTold? h
    change (if _ then none else some _).isSome
    rw [if_neg (ne_true_of_eq_false hfailed)]
    rfl
  case sessionAuthUrl_of_token => exact isSome_url?_of_resolvedToken?
  case keyAuthUrl_of_token => exact isSome_url?_of_resolvedToken?

theorem assembled_podReport (port : UInt16) (certificates : Harvest) (store : TokenStore)
    : let report := podReport settings e (settings.endpoint port) certificates
      Assembled store (report.tokens.handOver settings.hostname store) report := by
  unfold podReport
  split
  . apply assembled_fullReport
  . apply assembled_website
    exact iff_of_true rfl rfl

theorem assembled_run (store : TokenStore)
    : let run := run settings e store
      Assembled store run.value.2 run.value.1 := by
  intro run
  obtain ⟨certificates, hreport, hstore⟩ := value_run settings e store
  have hpod := mem_endpoints_detectSite settings e { store }
  have hplatform := isPlatform_detectSite settings e { store }
  rw [hstore, hreport]
  generalize ((detectSite settings e).run { store }).value.1 = found at hpod hplatform ⊢
  rcases found with ⟨site, pod⟩
  cases pod with
  | none => exact assembled_website hplatform certificates store
  | some pod =>
    obtain ⟨port, _, rfl⟩ := hpod pod rfl
    apply assembled_podReport

end PodProbe.Discovery
