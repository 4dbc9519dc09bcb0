import PodProbe.Proofs.Discovery.Answers

/-!
This module contains what a run concludes about the services from the answers of their candidates: the URLs and the
tokens that it reports, and the tokens that it hands over to the store.
-/

namespace PodProbe

/-- The token that an answer offers: it did not fail, and its payload is an object with a text of that name. -/
def Probe.offer? (p : Probe) : Option String :=
  match p.failure?, p.json with
  | none, some (.obj members) =>
    match members.lookup "token" with
    | some (.str token) => some token
    | _ => none
  | _, _ => none

namespace Discovery

def offering (answers : List Probe) : List Probe :=
  answers.filter fun p => p.offer?.isSome

def usable (answers : List Probe) : List Probe :=
  answers.filter fun p => !p.isFailed

/-- Whether a URL and a token are what the answers of a service lead to. -/
structure Concludes (answers : List Probe) (url token : Option String) : Prop where
  url_eq : url = preferredUrl (offering answers) (Scan.demanding answers)
  token_eq_some_iff : ∀ t, token = some t ↔ ∃ p, offering answers = [p] ∧ p.offer? = some t

theorem offer?_eq (p : Probe) : p.offer? = if p.isFailed then none else tokenOf? p := by
  unfold Probe.offer? tokenOf? Probe.isFailed
  cases p.failure? with
  | some f => rfl
  | none =>
    cases p.json with
    | none => rfl
    | some j =>
      cases j with
      | obj members =>
        rw [Option.bind_some, Json.get?_obj]
        dsimp only
        cases members.lookup "token" with
        | none => rfl
        | some value => cases value <;> rfl
      | _ => rfl

theorem offering_eq (answers : List Probe)
    : offering answers = Scan.accepted (fun p => (tokenOf? p).isSome) answers := by
  unfold offering Scan.accepted
  apply List.filter_congr
  intro p _
  rw [offer?_eq]
  cases p.isFailed <;> rfl

theorem resolvedToken?_eq_some_iff {o : Outcome} {token : String}
    : resolvedToken? o = some token ↔ ∃ p, o = .found p ∧ tokenOf? p = some token := by
  cases o <;> simp [resolvedToken?]

theorem concludes_authScan (e : Executor) (kind : AuthKind) (name domain : String) (tokens : Tokens)
    : let o := (authScan e kind name domain tokens).outcome
      Concludes ((authProbes kind name domain tokens).map e.execute) o.url? (resolvedToken? o) := by
  unfold authScan
  constructor
  . rw [Scan.url?_outcome_ofAttempts, offering_eq]
  . intro t
    rw [Scan.outcome_ofAttempts, resolvedToken?_eq_some_iff, offering_eq]
    generalize (authProbes kind name domain tokens).map e.execute = answers
    simp only [Outcome.of_eq_found_iff, List.map_eq_singleton_iff]
    have hoffer {p : Probe} (h : Scan.accepted (fun p => (tokenOf? p).isSome) answers = [p])
        : p.offer? = tokenOf? p := by
      have hmem : p ∈ Scan.accepted (fun p => (tokenOf? p).isSome) answers := h ▸ List.mem_singleton_self p
      have haccepted := (List.mem_filter.1 hmem).2
      rw [Bool.and_eq_true, Bool.not_eq_true'] at haccepted
      rw [offer?_eq, haccepted.1]
      rfl
    constructor
    . rintro ⟨_, ⟨p, hp, rfl⟩, htoken⟩
      exact ⟨p, hp, (hoffer hp).trans htoken⟩
    . rintro ⟨p, hp, htoken⟩
      exact ⟨p.declared, ⟨p, hp, rfl⟩, (hoffer hp).symm.trans htoken⟩

theorem concludes_nil : Concludes [] none none := by
  constructor
  . rfl
  . simp [offering]

variable (settings : Settings) (e : Executor)

theorem concludes_key (pod : Endpoint)
    : let o := keyOutcome settings e pod
      Concludes ((keyProbes settings e pod).map e.execute) o.url? (resolvedToken? o) := by
  unfold keyProbes keyOutcome
  cases Url.splitHost? (managerUrl settings e pod) with
  | none => exact concludes_nil
  | some host => apply concludes_authScan

theorem url?_agentOutcome (pod : Endpoint)
    : let answers := (agentProbes settings (finalTokens settings e pod)).map e.execute
      (agentOutcome settings e pod).url? = preferredUrl (usable answers) (Scan.demanding answers) := by
  unfold agentOutcome agentScan usable
  rw [Scan.url?_outcome_ofAttempts]
  unfold Scan.accepted
  simp only [Bool.and_true]

theorem endpoints_execute (ps : List Probe) : (ps.map e.execute).map Probe.endpoint = ps.map Probe.endpoint := by
  simp only [List.map_map, Function.comp_def, Executor.endpoint_execute]

/-- What a run concludes from the answers of the services. -/
structure Settles (store : TokenStore) (run : Journaled (Report × TokenStore)) : Prop where
  session_endpoints : (run.journal.answersBelow "/sessionauth").map Probe.endpoint
    = Endpoint.candidates settings.name settings.domain nameSuffixes authPorts "/sessionauth"
  key_endpoints : (run.journal.answersBelow "/keyauth").map Probe.endpoint
    = managerCandidates (managerHost? run.value.1.configuration)
  agent_endpoints : (run.journal.answersBelow "/agent").map Probe.endpoint
    = Endpoint.candidates settings.name settings.domain nameSuffixes agentPorts "/agent"
  session : Concludes (run.journal.answersBelow "/sessionauth")
    run.value.1.configuration.sessionAuthUrl run.value.1.tokens.session
  key : Concludes (run.journal.answersBelow "/keyauth")
    run.value.1.configuration.keyAuthUrl run.value.1.tokens.keyManager
  agent : run.value.1.configuration.agentApiUrl
    = preferredUrl (usable (run.journal.answersBelow "/agent"))
        (Scan.demanding (run.journal.answersBelow "/agent"))
  store_session : ∀ t, run.value.1.tokens.session = some t →
    run.value.2.get? settings.hostname "sessionToken" = some t
  store_key : ∀ t, run.value.1.tokens.keyManager = some t →
    run.value.2.get? settings.hostname "keyManagerToken" = some t
  store_kept : ∀ host name,
    (host = settings.hostname → name = "sessionToken" → run.value.1.tokens.session = none) →
    (host = settings.hostname → name = "keyManagerToken" → run.value.1.tokens.keyManager = none) →
    run.value.2.get? host name = store.get? host name

theorem settles_of_health (store : TokenStore) (h : (run settings e store).value.1.health.isSome)
    : Settles settings store (run settings e store) := by
  obtain ⟨port, health, certificates, hvalue, hsession, hkey, hagent⟩ :=
    answersBelow_of_health settings e store h
  have hstore : (run settings e store).value.2
      = (run settings e store).value.1.tokens.handOver settings.hostname store := by
    rw [hvalue]
    rfl
  constructor
  . rw [hsession, endpoints_execute, endpoints_authProbes]
    rfl
  . rw [hkey, endpoints_execute, endpoints_keyProbes, hvalue]
    rfl
  . rw [hagent, endpoints_execute, endpoints_agentProbes]
    rfl
  . rw [hsession, hvalue]
    exact concludes_authScan e .session settings.name settings.domain {}
  . rw [hkey, hvalue]
    apply concludes_key
  . rw [hagent, hvalue]
    apply url?_agentOutcome
  . intro t ht
    rw [hstore, Tokens.get?_handOver_session, ht, Option.some_or]
  . intro t ht
    rw [hstore, Tokens.get?_handOver_keyManager, ht, Option.some_or]
  . intro host name hsession hkey
    rw [hstore, Tokens.get?_handOver_of_none hsession hkey]

/-- One endpoint of each login answers with a token. What the store has of another host stays. -/
theorem settles_of_health_acme
    : let settings : Settings := { name := "acme" }
      let answer (body : String) : Response :=
        { status := 200, contentType := some "application/json", body, chain := [] }
      let e := Executor.ofReplies
        [((healthProbe (settings.endpoint 443)).url, .response (answer "\x7b\x7d")),
          ((checkAuthProbe (settings.endpoint 443) {}).url,
            .response (answer "\x7b\"keymanagerUrl\":\"https://[::1]/\"\x7d")),
          ("https://acme-api.symphony.com:8444/sessionauth/v1/authenticate",
            .response (answer "\x7b\"token\":\"new\"\x7d")),
          ("https://[::1]:8444/keyauth/v1/authenticate", .response (answer "\x7b\"token\":\"key\"\x7d"))]
        (.response { answer "" with contentType := some "text/html" })
      let store : TokenStore :=
        [⟨"acme.symphony.com", "sessionToken", "old"⟩, ⟨"acme.test", "sessionToken", "other"⟩]
      let run := run settings e store
      run.value.1.health.isSome
        ∧ Settles settings store run
        ∧ run.value.1.tokens = { session := some "new", keyManager := some "key" }
        ∧ run.value.2.get? "acme.symphony.com" "sessionToken" = some "new"
        ∧ run.value.2.get? "acme.symphony.com" "keyManagerToken" = some "key"
        ∧ run.value.2.get? "acme.test" "sessionToken" = some "other" := by
  intro settings answer e store run
  have h : run.value.1.health.isSome := by
    rw [health_run]
    decide
  have htokens : run.value.1.tokens = { session := some "new", keyManager := some "key" } := by
    rw [tokens_run]
    decide +kernel
  have hsettles := settles_of_health settings e store h
  refine ⟨h, hsettles, htokens, ?_, ?_, ?_⟩
  . exact hsettles.store_session _ (congrArg Tokens.session htokens)
  . exact hsettles.store_key _ (congrArg Tokens.keyManager htokens)
  . exact (hsettles.store_kept _ _ (by decide) (by decide)).trans (by decide)

end Discovery

end PodProbe
