import PodProbe.Proofs.Discovery.Hosts
import PodProbe.Proofs.Discovery.Manager
import PodProbe.Proofs.Text.Occurrence
import PodProbe.Proofs.Url.Placed

/-!
This module contains where a run looks for a key manager that nobody names. The relay below the pod stands for it, and
its host is cut in two at the first dot, which need not be where the name of the pod ends and the domain begins.
-/

namespace PodProbe

def Journal.hostsOf (j : Journal) (s : Discovery.Service) : List String :=
  (j.requestsTo s).map (·.endpoint.host)

namespace Discovery

/-! ### The suffix in a host -/

theorem toList_join_replicate (k : Nat) (s : String)
    : (String.join (List.replicate k s)).toList = (List.replicate k s.toList).flatten := by
  rw [String.toList_join, List.flatMap_def, List.map_replicate]

theorem append_suffix_comm_iff {s : String}
    : "-api" ++ s = s ++ "-api" ↔ ∃ k, s = String.join (List.replicate k "-api") := by
  have hcomm : "-api".toList ++ s.toList = s.toList ++ "-api".toList
      ↔ ∃ k, s.toList = (List.replicate k "-api".toList).flatten :=
    Text.append_comm_iff (show '-' ∉ "api".toList by decide)
  rw [← String.toList_inj, String.toList_append, String.toList_append]
  refine hcomm.trans (exists_congr fun k => ?_)
  rw [← String.toList_inj, toList_join_replicate]

theorem suffixed_eq_iff {name domain start rest : String} (h : Url.CutAtDot (name ++ domain) start rest)
    : start ++ "-api" ++ rest = name ++ "-api" ++ domain
        ↔
      Url.Lacks '.' name.toList ∧ ∃ k rest', Url.CutAtDot domain (String.join (List.replicate k "-api")) rest' := by
  by_cases hname : Url.Lacks '.' name.toList
  . rcases Url.exists_cutAtDot domain with ⟨middle, rest', hdomain⟩
    rcases h.unique (hdomain.append hname) with ⟨rfl, rfl⟩
    have hmiddle : "-api" ++ middle = middle ++ "-api"
        ↔ ∃ k rest', Url.CutAtDot domain (String.join (List.replicate k "-api")) rest' := by
      rw [append_suffix_comm_iff]
      constructor
      . rintro ⟨k, rfl⟩
        exact ⟨k, rest, hdomain⟩
      . rintro ⟨k, rest', hk⟩
        exact ⟨k, (hdomain.unique hk).1⟩
    rw [and_iff_right hname, ← hmiddle, ← hdomain.append_eq]
    rw [← String.append_assoc, String.append_left_inj, String.append_assoc, String.append_assoc, String.append_right_inj]
    exact eq_comm
  . rcases Url.exists_cutAtDot name with ⟨start', rest', hcut⟩
    rcases hcut.exists_of_not_lacks hname with ⟨tail, rfl⟩
    rcases h.unique (hcut.append_of_not_lacks hname domain) with ⟨rfl, rfl⟩
    refine iff_of_false ?_ fun hboth => hname hboth.1
    -- What follows on the first part of the name is the suffix in one text and the dot in the other.
    intro heq
    rw [← hcut.append_eq] at heq
    simp only [String.append_assoc, String.append_right_inj] at heq
    have hlist := congrArg String.toList heq
    simp at hlist

/-! ### The hosts of candidates -/

theorem hosts_authProbes (kind : AuthKind) (name domain : String) (tokens : Tokens)
    : (authProbes kind name domain tokens).map (·.endpoint.host)
        =
      List.replicate 3 (name ++ "-api" ++ domain) ++ List.replicate 3 (name ++ domain) := by
  have hhosts := congrArg (List.map Endpoint.host) (endpoints_authProbes kind name domain tokens)
  rw [List.map_map] at hhosts
  refine hhosts.trans ?_
  simp [Endpoint.candidates, nameSuffixes, authPorts, Endpoint.host, List.replicate]

theorem hosts_keyProbes (settings : Settings) (e : Executor) {pod : Endpoint} {host name rest : String}
    (hhost : Url.hostText? (managerUrl settings e pod) = some host) (hcut : Url.CutAtDot host name rest)
    : (keyProbes settings e pod).map (·.endpoint.host)
        =
      List.replicate 3 (name ++ "-api" ++ rest) ++ List.replicate 3 host := by
  unfold keyProbes
  rw [Url.splitHost?_eq_some_iff.2 ⟨host, hhost, hcut⟩, ← hcut.append_eq]
  apply hosts_authProbes

/-! ### The relay -/

theorem exists_portText_eq (endpoint : Endpoint) : ∃ port?, endpoint.portText = String.ofList (Url.writePort port?) := by
  unfold Endpoint.portText
  split
  . exact ⟨none, rfl⟩
  . refine ⟨some endpoint.port, ?_⟩
    apply String.toList_injective
    simp [Url.writePort]

theorem relayUrl_eq (settings : Settings) (port : UInt16)
    : ∃ port?, (settings.endpoint port).baseUrl ++ relayPath
        = "https://" ++ settings.hostname ++ String.ofList (Url.writePort port?) ++ "/relay" := by
  rcases exists_portText_eq (settings.endpoint port) with ⟨port?, hport⟩
  refine ⟨port?, ?_⟩
  rw [← hport]
  simp [Endpoint.baseUrl, Endpoint.host, Settings.endpoint, Settings.hostname, Scheme.text, relayPath]

theorem hostText?_relayUrl {settings : Settings} (port : UInt16)
    (h : Url.hostText? ("https://" ++ settings.name ++ settings.domain ++ "/relay") = some settings.hostname)
    : Url.hostText? ((settings.endpoint port).baseUrl ++ relayPath) = some settings.hostname := by
  rcases relayUrl_eq settings port with ⟨port?, hrelay⟩
  rw [hrelay]
  apply Url.hostText?_ported
  . rw [Settings.hostname, ← String.append_assoc]
    exact h
  . rfl
  . exact Url.visible_iff.2 rfl

/-- Where a run looks for a key manager at the relay, and when these are the hosts that it logs in at. -/
structure Relays (settings : Settings) (run : Journaled (Report × TokenStore)) : Prop where
  hosts_eq : ∃ name rest, Url.CutAtDot settings.hostname name rest
    ∧ run.journal.hostsOf .keyAuth
        = List.replicate 3 (name ++ "-api" ++ rest) ++ List.replicate 3 settings.hostname
  alike_iff : run.journal.hostsOf .keyAuth = run.journal.hostsOf .sessionAuth
    ↔ Url.Lacks '.' settings.name.toList
        ∧ ∃ k rest, Url.CutAtDot settings.domain (String.join (List.replicate k "-api")) rest

variable (settings : Settings) (e : Executor)

theorem managerUrl_eq_relayUrl {j : Journal} {ps : List Probe} {port : UInt16}
    (hps : ∀ p ∈ ps, p ∈ clientProbes settings podPorts ++ plainProbes settings podPorts)
    (h : j.exchanges
      = (ps ++ healthProbe (settings.endpoint port) :: fullProbes settings e (settings.endpoint port)).map e.exchange)
    (hlogin : ∀ p ∈ answersTo .checkAuth j.exchanges, p.saidText? ["keymanagerUrl"] = none)
    (hinfo : ∀ p ∈ answersTo .podInfo j.exchanges, p.saidText? ["data", "keyManagerUrl"] = none)
    : managerUrl settings e (settings.endpoint port) = (settings.endpoint port).baseUrl ++ relayPath := by
  rcases answersTo_ownProbes settings e port (sessionTokens settings e) with ⟨hcheck, hpod⟩
  rw [h, answersTo_fullProbes settings e hps port (by decide), hcheck, List.forall_mem_singleton] at hlogin
  rw [h, answersTo_fullProbes settings e hps port (by decide), hpod, List.forall_mem_singleton] at hinfo
  unfold managerUrl
  rw [managerTold?_eq, infoTold_eq, hlogin, hinfo]
  rfl

theorem relays_run (store : TokenStore)
    (hhost : Url.hostText? ("https://" ++ settings.name ++ settings.domain ++ "/relay") = some settings.hostname)
    (hhealth : (run settings e store).value.1.health.isSome)
    (hlogin : ∀ p ∈ answersTo .checkAuth (run settings e store).journal.exchanges,
      p.saidText? ["keymanagerUrl"] = none)
    (hinfo : ∀ p ∈ answersTo .podInfo (run settings e store).journal.exchanges,
      p.saidText? ["data", "keyManagerUrl"] = none)
    : Relays settings (run settings e store) := by
  rcases run_of_health settings e store hhealth with ⟨port, _, _, ps, hps, _, hexchanges⟩
  rcases requestsTo_of_exchanges_eq settings e hps hexchanges with ⟨hsession, hkey, _⟩
  have hrelay := hostText?_relayUrl port hhost
  rw [← managerUrl_eq_relayUrl settings e hps hexchanges hlogin hinfo] at hrelay
  rcases Url.exists_cutAtDot settings.hostname with ⟨name, rest, hcut⟩
  have hsessionHosts : (run settings e store).journal.hostsOf .sessionAuth
      = List.replicate 3 (settings.name ++ "-api" ++ settings.domain) ++ List.replicate 3 settings.hostname := by
    unfold Journal.hostsOf
    rw [hsession]
    apply hosts_authProbes
  have hkeyHosts : (run settings e store).journal.hostsOf .keyAuth
      = List.replicate 3 (name ++ "-api" ++ rest) ++ List.replicate 3 settings.hostname := by
    unfold Journal.hostsOf
    rw [hkey]
    exact hosts_keyProbes settings e hrelay hcut
  constructor
  case hosts_eq => exact ⟨name, rest, hcut, hkeyHosts⟩
  case alike_iff =>
    rw [hsessionHosts, hkeyHosts, List.append_left_inj, ← suffixed_eq_iff hcut]
    simp [List.replicate]

/--
All of an address in brackets is taken for the name, as it has no dot. It is read without the tables that every other
host goes through, which are too large to be evaluated in a proof.
-/
theorem relays_run_address
    : let settings : Settings := { name := "[::1]", domain := "" }
      let healthy : Response :=
        { status := 200, contentType := some "application/json", body := "\x7b\x7d", chain := [] }
      let page : Response := { status := 200, contentType := some "text/html", body := "", chain := [] }
      let e := Executor.ofReplies
        [((healthProbe (settings.endpoint 443)).url, .response healthy)] (.response page)
      let run := run settings e []
      Url.hostText? ("https://" ++ settings.name ++ settings.domain ++ "/relay") = some settings.hostname
        ∧ run.value.1.health.isSome
        ∧ (∀ p ∈ answersTo .checkAuth run.journal.exchanges, p.saidText? ["keymanagerUrl"] = none)
        ∧ (∀ p ∈ answersTo .podInfo run.journal.exchanges, p.saidText? ["data", "keyManagerUrl"] = none)
        ∧ Relays settings run
        ∧ run.journal.hostsOf .keyAuth = List.replicate 3 "[::1]-api" ++ List.replicate 3 "[::1]" := by
  intro settings healthy page e run
  have hhost : Url.hostText? ("https://" ++ settings.name ++ settings.domain ++ "/relay") = some settings.hostname := by
    decide +kernel
  have hhealth : run.value.1.health.isSome := by
    rw [health_run]
    decide
  have hlogin : ∀ p ∈ answersTo .checkAuth run.journal.exchanges, p.saidText? ["keymanagerUrl"] = none := by
    rw [exchanges_run]
    decide +kernel
  have hinfo : ∀ p ∈ answersTo .podInfo run.journal.exchanges, p.saidText? ["data", "keyManagerUrl"] = none := by
    rw [exchanges_run]
    decide +kernel
  have hrelays : Relays settings run := relays_run settings e [] hhost hhealth hlogin hinfo
  obtain ⟨name, rest, hcut, hhosts⟩ := hrelays.hosts_eq
  have hdotless : Url.CutAtDot settings.hostname "[::1]" "" := ⟨by decide, by decide, Or.inl rfl⟩
  obtain ⟨rfl, rfl⟩ := hcut.unique hdotless
  exact ⟨hhost, hhealth, hlogin, hinfo, hrelays, hhosts⟩

/-- A run need not look for the key manager where it logs in: here the name goes on in the domain. -/
theorem hostsOf_relay_ne
    : let settings : Settings := { name := "[::", domain := "1]" }
      let healthy : Response :=
        { status := 200, contentType := some "application/json", body := "\x7b\x7d", chain := [] }
      let page : Response := { status := 200, contentType := some "text/html", body := "", chain := [] }
      let e := Executor.ofReplies
        [((healthProbe (settings.endpoint 443)).url, .response healthy)] (.response page)
      let run := run settings e []
      Url.hostText? ("https://" ++ settings.name ++ settings.domain ++ "/relay") = some settings.hostname
        ∧ run.value.1.health.isSome
        ∧ (∀ p ∈ answersTo .checkAuth run.journal.exchanges, p.saidText? ["keymanagerUrl"] = none)
        ∧ (∀ p ∈ answersTo .podInfo run.journal.exchanges, p.saidText? ["data", "keyManagerUrl"] = none)
        ∧ run.journal.hostsOf .keyAuth ≠ run.journal.hostsOf .sessionAuth := by
  intro settings healthy page e run
  refine ⟨by decide +kernel, ?_, ?_, ?_, ?_⟩
  . rw [health_run]
    decide
  . rw [exchanges_run]
    decide +kernel
  . rw [exchanges_run]
    decide +kernel
  . unfold Journal.hostsOf Journal.requestsTo
    rw [exchanges_run]
    decide +kernel

end Discovery

end PodProbe
