import PodProbe.Proofs.Discovery.Credentials

/-!
This module contains who names the key manager of a pod. The pod itself comes first, then its login service, and
without both it is the relay below the pod; an answer that does not name one leaves the word to the next.
-/

namespace PodProbe

/-- The value under some keys, where each but the last leads to an object that has the next. -/
def Json.at? : List String → Json → Option Json
  | [], j => some j
  | key :: keys, .obj members => (members.lookup key).bind fun j => at? keys j
  | _, _ => none

/-- What an answer says under some keys, if it did not fail. -/
def Probe.said? (p : Probe) (keys : List String) : Option Json :=
  match p.failure?, p.json with
  | none, some j => j.at? keys
  | _, _ => none

def Probe.saidText? (p : Probe) (keys : List String) : Option String :=
  match p.said? keys with
  | some (.str s) => some s
  | _ => none

namespace Discovery

theorem at?_singleton (key : String) (j : Json) : j.at? [key] = j.get? key := by
  cases j with
  | obj members =>
    rw [Json.get?_obj]
    simp [Json.at?]
  | _ => rfl

theorem saidText?_eq (p : Probe) (keys : List String) : p.saidText? keys = (p.said? keys).bind Json.str? := by
  unfold Probe.saidText?
  cases p.said? keys with
  | none => rfl
  | some j => cases j <;> rfl

theorem said?_eq (p : Probe) (keys : List String)
    : p.said? keys = if p.isFailed then none else p.json.bind (·.at? keys) := by
  unfold Probe.said? Probe.isFailed
  cases p.failure? <;> cases p.json <;> rfl

theorem managerTold?_eq (p : Probe) : managerTold? p = p.saidText? ["keymanagerUrl"] := by
  unfold managerTold?
  rw [saidText?_eq, said?_eq]
  simp only [at?_singleton]
  cases p.isFailed <;> rfl

theorem PodInfo.ofJson?_getD_eq (j : Json)
    : (PodInfo.ofJson? j).getD {}
        =
      { podId := (j.at? ["data", "podId"]).bind identifierNumber?
        keyManagerUrl := (j.at? ["data", "keyManagerUrl"]).bind Json.str? } := by
  unfold PodInfo.ofJson?
  cases j with
  | obj members =>
    rw [Json.get?_obj]
    simp only [Json.at?]
    cases members.lookup "data" with
    | none => rfl
    | some data => cases data <;> simp [Json.at?, Json.members?]
  | _ => rfl

theorem infoTold_eq (p : Probe)
    : infoTold p
        =
      { podId := (p.said? ["data", "podId"]).bind identifierNumber?
        keyManagerUrl := p.saidText? ["data", "keyManagerUrl"] } := by
  unfold infoTold
  rw [saidText?_eq, said?_eq, said?_eq]
  cases p.isFailed with
  | true => rfl
  | false =>
    cases p.json with
    | none => rfl
    | some j => exact PodInfo.ofJson?_getD_eq j

/-- What the answers of the login service and of the pod about itself come to in a run. -/
structure Manages (run : Journaled (Report × TokenStore)) (login info : Probe) : Prop where
  login_eq : answersTo .checkAuth run.journal.exchanges = [login]
  info_eq : answersTo .podInfo run.journal.exchanges = [info]
  statuses_eq : login.request.expectedStatuses = [200, 401]
  of_info : ∀ url, info.saidText? ["data", "keyManagerUrl"] = some url →
    run.value.1.configuration.keyManagerUrl = some url
  of_login : info.saidText? ["data", "keyManagerUrl"] = none → ∀ url, login.saidText? ["keymanagerUrl"] = some url →
    run.value.1.configuration.keyManagerUrl = some url
  of_neither : info.saidText? ["data", "keyManagerUrl"] = none → login.saidText? ["keymanagerUrl"] = none →
    ∃ pod, run.value.1.configuration.podUrl = some pod
      ∧ run.value.1.configuration.keyManagerUrl = some (pod ++ "/relay")
  /-- Whatever the same answer says of the key manager. -/
  podId_eq : run.value.1.configuration.podId = (info.said? ["data", "podId"]).bind identifierNumber?

variable (settings : Settings) (e : Executor)

theorem expectedStatuses_checkAuthProbe (pod : Endpoint) (tokens : Tokens)
    : (e.execute (checkAuthProbe pod tokens)).request.expectedStatuses = [200, 401] := by
  obtain ⟨_, _, _, _, _, _, h⟩ := (checkAuthProbe pod tokens).receive_eq (e.reply (checkAuthProbe pod tokens))
  unfold Executor.execute
  rw [h]
  unfold checkAuthProbe
  rw [Tokens.asCookies_eq]
  rfl

theorem answersTo_fullProbes {ps : List Probe}
    (hps : ∀ p ∈ ps, p ∈ clientProbes settings podPorts ++ plainProbes settings podPorts) (port : UInt16)
    {s : Service} (hs : s ∉ [Service.sessionAuth, .keyAuth, .agent])
    : let pod := settings.endpoint port
      answersTo s ((ps ++ healthProbe pod :: fullProbes settings e pod).map e.exchange)
        =
      answersTo s ((ownProbes pod (sessionTokens settings e)).map e.exchange) := by
  intro pod
  simp only [List.mem_cons, List.not_mem_nil, or_false, not_or] at hs
  have hfirst : ∀ p ∈ ps ++ [healthProbe pod] ++ authProbes .session settings.name settings.domain {},
      Errand.Foreign s p := by
    rw [List.forall_mem_append, List.forall_mem_append, List.forall_mem_singleton]
    refine ⟨⟨?_, (preliminary_healthProbe port).foreign s⟩, ?_⟩
    . intro p hp
      exact (preliminary_siteProbes (hps p hp)).foreign s
    . intro p hp
      exact Errand.foreign_of_asks (Errand.asks_authProbes .session hp) (Ne.symm hs.1)
  unfold fullProbes
  rw [List.append_cons, ← List.append_assoc, ← List.append_assoc, ← List.append_assoc]
  rw [answersTo_append_of_foreign e fun p hp => Errand.foreign_of_asks (Errand.asks_agentProbes hp) (Ne.symm hs.2.2)]
  rw [answersTo_append_of_foreign e fun p hp => Errand.foreign_of_asks (Errand.asks_keyProbes hp) (Ne.symm hs.2.1)]
  rw [List.map_append, answersTo_append, answersTo_eq_nil e hfirst, List.nil_append]

theorem answersTo_ownProbes (port : UInt16) (tokens : Tokens)
    : let pod := settings.endpoint port
      let xs := (ownProbes pod tokens).map e.exchange
      answersTo .checkAuth xs = [e.execute (checkAuthProbe pod tokens)]
        ∧ answersTo .podInfo xs = [e.execute (podInfoProbe pod)] := by
  intro pod xs
  have hsession := Errand.asks_sessionInfoProbe settings port tokens
  have hlogin := Errand.asks_checkAuthProbe settings port tokens
  have hinfo := Errand.asks_podInfoProbe settings port
  have hne {s s' : Service} {p : Probe} (h : (Errand.service s').Asks p) (hs : s' ≠ s) : ¬ (Errand.service s).Asks p :=
    (Errand.foreign_of_asks h hs).not_asks
  constructor
  . simp [answersTo, xs, ownProbes, Executor.exchange, pod, hne hsession, hlogin, hne hinfo]
  . simp [answersTo, xs, ownProbes, Executor.exchange, pod, hne hsession, hne hlogin, hinfo]

theorem manages_of_health (store : TokenStore) (h : (run settings e store).value.1.health.isSome)
    : ∃ login info, Manages (run settings e store) login info := by
  obtain ⟨port, health, certificates, ps, hps, hvalue, hexchanges⟩ := run_of_health settings e store h
  let pod := settings.endpoint port
  obtain ⟨hlogin, hinfo⟩ := answersTo_ownProbes settings e port (sessionTokens settings e)
  have hown (s : Service) (hs : s ∉ [Service.sessionAuth, .keyAuth, .agent])
      : answersTo s (run settings e store).journal.exchanges
          = answersTo s ((ownProbes pod (sessionTokens settings e)).map e.exchange) := by
    rw [hexchanges]
    exact answersTo_fullProbes settings e hps port hs
  have hmanager : (run settings e store).value.1.configuration.keyManagerUrl = some (managerUrl settings e pod) := by
    rw [hvalue]
    rfl
  unfold managerUrl at hmanager
  rw [managerTold?_eq, infoTold_eq] at hmanager
  refine ⟨e.execute (checkAuthProbe pod (sessionTokens settings e)), e.execute (podInfoProbe pod), ?_⟩
  constructor
  case login_eq => exact (hown .checkAuth (by decide)).trans hlogin
  case info_eq => exact (hown .podInfo (by decide)).trans hinfo
  case statuses_eq => apply expectedStatuses_checkAuthProbe
  case of_info =>
    intro url hurl
    rw [hmanager, hurl]
    rfl
  case of_login =>
    intro hnone url hurl
    rw [hmanager, hnone, hurl]
    rfl
  case of_neither =>
    intro hinfo hlogin
    refine ⟨pod.baseUrl, ?_, ?_⟩
    . rw [hvalue]
      rfl
    . rw [hmanager, hinfo, hlogin]
      rfl
  case podId_eq =>
    rw [hvalue]
    exact congrArg PodInfo.podId (infoTold_eq _)

/-- The pod tells its number, but no text for the key manager: the word of the login service stands. -/
theorem manages_of_health_acme
    : let settings : Settings := { name := "acme" }
      let answer (body : String) : Response :=
        { status := 200, contentType := some "application/json", body, chain := [] }
      let e := Executor.ofReplies
        [((healthProbe (settings.endpoint 443)).url, .response (answer "\x7b\x7d")),
          ((checkAuthProbe (settings.endpoint 443) {}).url,
            .response (answer "\x7b\"keymanagerUrl\":\"https://[::1]/\"\x7d")),
          ((podInfoProbe (settings.endpoint 443)).url,
            .response (answer "\x7b\"data\":\x7b\"podId\":7,\"keyManagerUrl\":8\x7d\x7d"))]
        (.response { answer "" with contentType := some "text/html" })
      let run := run settings e []
      run.value.1.health.isSome
        ∧ (∃ login info, Manages run login info)
        ∧ run.value.1.configuration.keyManagerUrl = some "https://[::1]/"
        ∧ run.value.1.configuration.podId = some 7 := by
  intro settings answer e run
  have h : run.value.1.health.isSome := by
    rw [health_run]
    decide
  obtain ⟨login, info, hmanages⟩ : ∃ login info, Manages run login info := manages_of_health settings e [] h
  have hlogin : (answersTo .checkAuth run.journal.exchanges).map (·.saidText? ["keymanagerUrl"])
      = [some "https://[::1]/"] := by
    rw [exchanges_run]
    decide +kernel
  have hinfo : (answersTo .podInfo run.journal.exchanges).map
        (fun p => (p.saidText? ["data", "keyManagerUrl"], (p.said? ["data", "podId"]).bind identifierNumber?))
      = [(none, some 7)] := by
    rw [exchanges_run]
    decide +kernel
  rw [hmanages.login_eq] at hlogin
  rw [hmanages.info_eq] at hinfo
  rw [List.map_singleton, List.singleton_inj] at hlogin
  rw [List.map_singleton, List.singleton_inj, Prod.mk.injEq] at hinfo
  refine ⟨h, ⟨login, info, hmanages⟩, ?_, ?_⟩
  . exact hmanages.of_login hinfo.1 _ hlogin
  . exact hmanages.podId_eq.trans hinfo.2

end Discovery

end PodProbe
