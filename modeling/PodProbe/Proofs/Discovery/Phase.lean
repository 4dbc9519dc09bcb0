import PodProbe.Discovery
import PodProbe.Proofs.Scan.Conclusion

/-!
This module contains what each phase does: the exchanges that it makes, what it gives back, and what it leaves in the
findings.
-/

namespace PodProbe.Discovery

section

variable {α β : Type} (f : Findings)

@[simp]
theorem value_bind (x : Phase α) (k : α → Phase β)
    : ((x >>= k).run f).value = ((k (x.run f).value.1).run (x.run f).value.2).value := rfl

@[simp]
theorem exchanges_bind (x : Phase α) (k : α → Phase β)
    : ((x >>= k).run f).journal.exchanges
        =
      (x.run f).journal.exchanges ++ ((k (x.run f).value.1).run (x.run f).value.2).journal.exchanges := by
  apply Journal.exchanges_append

@[simp]
theorem value_pure (a : α) : ((pure a : Phase α).run f).value = (a, f) := rfl

@[simp]
theorem exchanges_pure (a : α) : ((pure a : Phase α).run f).journal.exchanges = [] := rfl

@[simp]
theorem value_lift (x : Journaled α) : ((liftM x : Phase α).run f).value = (x.value, f) := rfl

@[simp]
theorem exchanges_lift (x : Journaled α)
    : ((liftM x : Phase α).run f).journal.exchanges = x.journal.exchanges := by
  rw [StateT.run_monadLift]
  simp

@[simp]
theorem value_get : ((get : Phase Findings).run f).value = (f, f) := rfl

@[simp]
theorem exchanges_get : ((get : Phase Findings).run f).journal.exchanges = [] := rfl

@[simp]
theorem value_modify (change : Findings → Findings)
    : ((modify change : Phase Unit).run f).value = ((), change f) := rfl

@[simp]
theorem exchanges_modify (change : Findings → Findings)
    : ((modify change : Phase Unit).run f).journal.exchanges = [] := rfl

end

variable (settings : Settings) (e : Executor) (pod : Endpoint) (f : Findings)

@[simp]
theorem value_configure (change : Configuration → Configuration)
    : ((configure change).run f).value = ((), { f with configuration := change f.configuration }) := rfl

@[simp]
theorem exchanges_configure (change : Configuration → Configuration)
    : ((configure change).run f).journal.exchanges = [] := rfl

@[simp]
theorem value_attempt (p : Probe) : ((attempt e p).run f).value = (e.execute p, f.absorb (e.execute p)) := by
  unfold attempt
  simp only [value_bind, value_lift, value_modify, value_pure, Journaled.value_exchange]

@[simp]
theorem exchanges_attempt (p : Probe) : ((attempt e p).run f).journal.exchanges = [e.exchange p] := by
  unfold attempt
  simp only [exchanges_bind, exchanges_lift, exchanges_modify, exchanges_pure]
  simp

@[simp]
theorem value_scan (title : String) (accepts : Probe → Bool) (ps : List Probe)
    : ((scan e title accepts ps).run f).value
        =
      (.ofAttempts e (fun p => (accepts p, p)) title ps,
        f.absorbAll (Scan.ofAttempts e (fun p => (accepts p, p)) title ps).probes) := by
  unfold scan
  simp only [value_bind, value_lift, value_modify, value_pure, Scan.value_runJournaled]

@[simp]
theorem exchanges_scan (title : String) (accepts : Probe → Bool) (ps : List Probe)
    : ((scan e title accepts ps).run f).journal.exchanges = ps.map e.exchange := by
  unfold scan
  simp only [exchanges_bind, exchanges_lift, exchanges_modify, exchanges_pure, Scan.exchanges_runJournaled]
  simp

@[simp]
theorem value_conclude (what : String) (o : Outcome) : ((conclude what o).run f).value = (o.url?, f) := rfl

@[simp]
theorem exchanges_conclude (what : String) (o : Outcome)
    : ((conclude what o).run f).journal.exchanges = [] := rfl

/-! ### Health -/

def healthTold? (p : Probe) : Option Health :=
  if p.isFailed then none else p.json.bind Health.ofJson?

theorem value_checkHealth
    : ((checkHealth e pod).run f).value
        =
      match healthTold? (e.execute (healthProbe pod)) with
      | some health =>
        let f := f.absorb (e.execute (healthProbe pod))
        (some health, { f with configuration.podUrl := some pod.baseUrl })
      | none => (none, f.absorb (e.execute (healthProbe pod))) := by
  unfold checkHealth healthTold?
  simp only [value_bind, value_lift, value_attempt]
  cases (e.execute (healthProbe pod)).isFailed with
  | true => rfl
  | false => cases (e.execute (healthProbe pod)).json.bind Health.ofJson? <;> rfl

theorem exchanges_checkHealth
    : ((checkHealth e pod).run f).journal.exchanges = [e.exchange (healthProbe pod)] := by
  unfold checkHealth
  simp only [exchanges_bind, exchanges_lift, exchanges_attempt, value_attempt]
  cases (e.execute (healthProbe pod)).isFailed with
  | true => rfl
  | false => cases (e.execute (healthProbe pod)).json.bind Health.ofJson? <;> rfl

/-! ### Tokens -/

def Findings.concluded (kind : AuthKind) (o : Outcome) : Findings where
  configuration := kind.record o.url? f.configuration
  tokens := (resolvedToken? o).elim f.tokens (f.tokens.insert kind.token ·)
  store := (resolvedToken? o).elim f.store (f.store.put settings.hostname kind.token.headerName ·)

def authScan (kind : AuthKind) (name domain : String) (tokens : Tokens) : Scan :=
  .ofAttempts e (fun p => ((tokenOf? p).isSome, p)) kind.title (authProbes kind name domain tokens)

theorem value_discoverAuth (kind : AuthKind) (name domain : String)
    : ((discoverAuth settings e kind name domain).run f).value
        =
      let scan := authScan e kind name domain f.tokens
      ((), (f.absorbAll scan.probes).concluded settings kind scan.outcome) := by
  unfold discoverAuth authScan Findings.concluded
  simp only [value_bind, value_lift, value_get, value_scan, value_conclude]
  generalize resolvedToken? _ = token
  cases token <;> rfl

theorem exchanges_discoverAuth (kind : AuthKind) (name domain : String)
    : ((discoverAuth settings e kind name domain).run f).journal.exchanges
        =
      (authProbes kind name domain f.tokens).map e.exchange := by
  unfold discoverAuth
  simp only [exchanges_bind, exchanges_lift, exchanges_scan, exchanges_conclude, value_get]
  split <;> simp

/-! ### The interface of the pod -/

@[simp]
theorem value_tellIdentity (p : Probe) (identity : Option SessionIdentity)
    : ((tellIdentity settings p identity).run f).value = ((), f) := by
  unfold tellIdentity
  split
  . split <;> rfl
  . rfl

@[simp]
theorem exchanges_tellIdentity (p : Probe) (identity : Option SessionIdentity)
    : ((tellIdentity settings p identity).run f).journal.exchanges = [] := by
  unfold tellIdentity
  split
  . split <;> rfl
  . rfl

def identityTold? (p : Probe) : Option SessionIdentity :=
  if p.isFailed then none
  else if p.status = some 200 then p.json.bind SessionIdentity.ofJson?
  else none

theorem value_discoverPodApi
    : ((discoverPodApi settings e pod).run f).value
        =
      let p := e.execute (sessionInfoProbe pod f.tokens)
      let f := f.absorb p
      (identityTold? p,
        { f with configuration.podApiUrl := if p.isFailed then f.configuration.podApiUrl else some p.baseUrl }) := by
  unfold discoverPodApi identityTold?
  simp only [value_bind, value_lift, value_get, value_attempt]
  cases (e.execute (sessionInfoProbe pod f.tokens)).isFailed with
  | true => rfl
  | false =>
    simp
    split <;> simp

@[simp]
theorem tokens_discoverPodApi : ((discoverPodApi settings e pod).run f).value.2.tokens = f.tokens := by
  rw [value_discoverPodApi]
  rfl

theorem exchanges_discoverPodApi
    : ((discoverPodApi settings e pod).run f).journal.exchanges
        =
      [e.exchange (sessionInfoProbe pod f.tokens)] := by
  unfold discoverPodApi
  simp only [exchanges_bind, exchanges_lift, exchanges_get, exchanges_attempt, value_lift, value_get,
    value_attempt]
  cases (e.execute (sessionInfoProbe pod f.tokens)).isFailed with
  | true => rfl
  | false =>
    simp
    split <;> simp

/-! ### The key manager -/

def managerTold? (p : Probe) : Option String :=
  if p.isFailed then none else (p.json.bind (·.get? "keymanagerUrl")).bind Json.str?

theorem value_checkAuth
    : ((checkAuth e pod).run f).value
        =
      let p := e.execute (checkAuthProbe pod f.tokens)
      let manager := (managerTold? p).getD (pod.baseUrl ++ relayPath)
      ((), { f.absorb p with configuration.keyManagerUrl := some manager }) := by
  unfold checkAuth managerTold?
  simp only [value_bind, value_lift, value_configure, value_get, value_attempt]
  cases (e.execute (checkAuthProbe pod f.tokens)).isFailed with
  | true => rfl
  | false =>
    cases ((e.execute (checkAuthProbe pod f.tokens)).json.bind (·.get? "keymanagerUrl")).bind Json.str? <;> rfl

theorem exchanges_checkAuth
    : ((checkAuth e pod).run f).journal.exchanges = [e.exchange (checkAuthProbe pod f.tokens)] := by
  unfold checkAuth
  simp only [exchanges_bind, exchanges_lift, exchanges_configure, exchanges_get, exchanges_attempt, value_lift,
    value_configure, value_get, value_attempt]
  cases (e.execute (checkAuthProbe pod f.tokens)).isFailed with
  | true => rfl
  | false =>
    cases ((e.execute (checkAuthProbe pod f.tokens)).json.bind (·.get? "keymanagerUrl")).bind Json.str? <;> rfl

def infoTold (p : Probe) : PodInfo :=
  if p.isFailed then {} else (p.json.bind PodInfo.ofJson?).getD {}

theorem value_podInfo
    : ((podInfo e pod).run f).value
        =
      let p := e.execute (podInfoProbe pod)
      let info := infoTold p
      let c := (f.absorb p).configuration
      ((), { f.absorb p with
        configuration.podId := info.podId.or c.podId
        configuration.keyManagerUrl := info.keyManagerUrl.or c.keyManagerUrl }) := by
  unfold podInfo infoTold
  simp only [value_bind, value_lift, value_attempt]
  cases (e.execute (podInfoProbe pod)).isFailed with
  | true => rfl
  | false =>
    cases (e.execute (podInfoProbe pod)).json.bind PodInfo.ofJson? with
    | none => rfl
    | some info =>
      rcases info with ⟨podId, keyManagerUrl⟩
      cases podId <;> cases keyManagerUrl <;> rfl

theorem exchanges_podInfo
    : ((podInfo e pod).run f).journal.exchanges = [e.exchange (podInfoProbe pod)] := by
  unfold podInfo
  simp only [exchanges_bind, exchanges_lift, exchanges_attempt, value_lift, value_attempt]
  cases (e.execute (podInfoProbe pod)).isFailed with
  | true => rfl
  | false =>
    cases (e.execute (podInfoProbe pod)).json.bind PodInfo.ofJson? with
    | none => rfl
    | some info =>
      rcases info with ⟨podId, keyManagerUrl⟩
      cases podId <;> cases keyManagerUrl <;> rfl

def managerHost? (c : Configuration) : Option (String × String) :=
  c.keyManagerUrl.bind Url.splitHost?

theorem value_discoverKeyAuth
    : ((discoverKeyAuth settings e).run f).value
        =
      match managerHost? f.configuration with
      | some (name, domain) =>
        let scan := authScan e .key name domain f.tokens
        ((), (f.absorbAll scan.probes).concluded settings .key scan.outcome)
      | none => ((), f) := by
  unfold discoverKeyAuth managerHost?
  simp only [value_bind, value_get]
  cases f.configuration.keyManagerUrl.bind Url.splitHost? with
  | none => rfl
  | some host => apply value_discoverAuth

theorem exchanges_discoverKeyAuth
    : ((discoverKeyAuth settings e).run f).journal.exchanges
        =
      match managerHost? f.configuration with
      | some (name, domain) => (authProbes .key name domain f.tokens).map e.exchange
      | none => [] := by
  unfold discoverKeyAuth managerHost?
  simp only [exchanges_bind, exchanges_get, value_get, List.nil_append]
  cases f.configuration.keyManagerUrl.bind Url.splitHost? with
  | none => rfl
  | some host => apply exchanges_discoverAuth

/-! ### The agent -/

def agentScan (tokens : Tokens) : Scan :=
  .ofAttempts e (fun p => (true, p)) "Agent" (agentProbes settings tokens)

theorem value_discoverAgent
    : ((discoverAgent settings e).run f).value
        =
      let scan := agentScan settings e f.tokens
      ((), { f.absorbAll scan.probes with configuration.agentApiUrl := scan.outcome.url? }) := by
  unfold discoverAgent agentScan
  simp only [value_bind, value_lift, value_get, value_scan, value_conclude, value_configure]

theorem exchanges_discoverAgent
    : ((discoverAgent settings e).run f).journal.exchanges
        =
      (agentProbes settings f.tokens).map e.exchange := by
  unfold discoverAgent
  simp only [exchanges_bind, exchanges_lift, exchanges_scan, exchanges_conclude, exchanges_configure, value_get]
  simp

end PodProbe.Discovery
