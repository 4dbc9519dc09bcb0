import Mathlib.Data.List.Nodup
import Mathlib.Data.List.Perm.Basic
import PodProbe.Proofs.Discovery.Errand
import PodProbe.Proofs.Discovery.Requests

/-!
This module contains that no URL is requested twice in a run. What a URL ends in tells which phase has requested it,
since no two endings are nested, and within a phase the origins differ.
-/

namespace PodProbe.Discovery

structure Group where
  ending : String
  origins : List String

def Group.urls (g : Group) : List String :=
  g.origins.map (· ++ g.ending)

theorem ne_of_unnested {s t : String} (h : Unnested s t) (a b : String) : a ++ s ≠ b ++ t := by
  intro heq
  apply h.not_suffix a
  rw [heq, String.toList_append]
  apply List.suffix_append

theorem nodup_groups {groups : List Group} (horigins : ∀ g ∈ groups, g.origins.Nodup)
    (hendings : (groups.map Group.ending).Pairwise Unnested)
    : (groups.flatMap Group.urls).Nodup := by
  rw [List.nodup_flatMap]
  constructor
  . intro g hg
    apply (horigins g hg).map
    intro a b h
    exact (String.append_left_inj g.ending).1 h
  . apply (List.pairwise_map.1 hendings).imp
    intro g k h url hg hk
    obtain ⟨a, _, rfl⟩ := List.mem_map.1 hg
    obtain ⟨b, _, heq⟩ := List.mem_map.1 hk
    exact ne_of_unnested h a b heq.symm

def candidateOrigins (name domain : String) (ports : List UInt16) : List String :=
  nameSuffixes.flatMap fun suffix => ports.map fun port =>
    ({ name, suffix, domain, port, basePath := "" } : Endpoint).origin

def managerOrigins : Option (String × String) → List String
  | some (name, domain) => candidateOrigins name domain authPorts
  | none => []

theorem urls_posts (name domain : String) (ports : List UInt16) (basePath path : String)
    : (posts name domain ports basePath path).map Prod.snd
        =
      Group.urls ⟨basePath ++ path, candidateOrigins name domain ports⟩ := by
  unfold posts candidateOrigins Group.urls
  simp only [List.map_flatMap, List.map_map, Function.comp_def, Endpoint.baseUrl_eq, String.append_assoc]
  rfl

variable (settings : Settings) (e : Executor)

def siteGroups : List Group := [
  ⟨"/", podPorts.map (fun port => (settings.endpoint port).origin)
    ++ podPorts.map (fun port => (settings.endpoint port).plaintext.origin)⟩,
  ⟨clientPath, podPorts.map (fun port => (settings.endpoint port).origin)⟩]

def podGroups (web : String) (manager : Option (String × String)) : List Group := [
  ⟨healthCheckPath, [web]⟩,
  ⟨"/sessionauth" ++ authenticatePath, candidateOrigins settings.name settings.domain authPorts⟩,
  ⟨podApiBase ++ sessionInfoPath, [web]⟩,
  ⟨checkAuthPath, [web]⟩,
  ⟨podInfoPath, [web]⟩,
  ⟨"/keyauth" ++ authenticatePath, managerOrigins manager⟩,
  ⟨agentBase ++ echoPath, candidateOrigins settings.name settings.domain agentPorts⟩]

theorem unnested_endings (web : String) (manager : Option (String × String))
    : ((siteGroups settings ++ podGroups settings web manager).map Group.ending).Pairwise Unnested := by
  simp only [siteGroups, podGroups, List.map_append, List.map_cons, List.map_nil]
  decide

/-! ### The origins of a group -/

theorem length_portText_of_mem_agentPorts (e : Endpoint) (he : e.scheme = .https) (h : e.port ∈ agentPorts)
    : e.portText.length = 0 ∨ e.portText.length = 5 := by
  have hports : e.port = 443 ∨ e.port = 8444 ∨ e.port = 8445 ∨ e.port = 8446 := by simpa [agentPorts] using h
  unfold Endpoint.portText
  rw [he]
  rcases hports with h | h | h | h
  . left
    rw [h]
    decide
  all_goals
    right
    rw [h]
    decide

theorem length_of_mem_nameSuffixes {suffix : String} (h : suffix ∈ nameSuffixes)
    : suffix.length = 0 ∨ suffix.length = 4 := by
  revert h
  revert suffix
  decide

theorem candidate_injective {name domain s t : String} {p q : UInt16}
    (hs : s ∈ nameSuffixes) (ht : t ∈ nameSuffixes) (hp : p ∈ agentPorts) (hq : q ∈ agentPorts)
    (h : Endpoint.origin { name, suffix := s, domain, port := p, basePath := "" }
      = Endpoint.origin { name, suffix := t, domain, port := q, basePath := "" })
    : s = t ∧ p = q := by
  have hlen := congrArg String.length h
  have hs := length_of_mem_nameSuffixes hs
  have ht := length_of_mem_nameSuffixes ht
  have hp := length_portText_of_mem_agentPorts { name, suffix := s, domain, port := p, basePath := "" } rfl hp
  have hq := length_portText_of_mem_agentPorts { name, suffix := t, domain, port := q, basePath := "" } rfl hq
  -- Suffixes differ in length by four and ports by five, so both lengths follow from their sum.
  unfold Endpoint.origin Endpoint.host at hlen
  simp only [String.length_append] at hlen
  apply Endpoint.candidate_injective h
  omega

theorem nodup_candidateOrigins (name domain : String) {ports : List UInt16}
    (hports : ports.Nodup) (hsub : ports ⊆ agentPorts)
    : (candidateOrigins name domain ports).Nodup := by
  unfold candidateOrigins
  rw [List.nodup_flatMap]
  constructor
  . intro suffix hsuffix
    apply hports.map_on
    intro p hp q hq h
    exact (candidate_injective hsuffix hsuffix (hsub hp) (hsub hq) h).2
  . have hne : nameSuffixes.Pairwise (· ≠ ·) := by decide
    apply hne.imp_of_mem
    intro s t hs ht hst origin hin hin'
    obtain ⟨p, hp, rfl⟩ := List.mem_map.1 hin
    obtain ⟨q, hq, h⟩ := List.mem_map.1 hin'
    exact hst (candidate_injective hs ht (hsub hp) (hsub hq) h.symm).1

theorem nodup_siteOrigins
    : (podPorts.map (fun port => (settings.endpoint port).origin)
        ++ podPorts.map (fun port => (settings.endpoint port).plaintext.origin)).Nodup := by
  have hports : podPorts.Nodup := by decide
  rw [List.nodup_append']
  refine ⟨?_, ?_, ?_⟩
  . apply hports.map
    intro p q h
    exact (settings.endpoint p).port_injective h
  . apply hports.map
    intro p q h
    exact (settings.endpoint p).plaintext.port_injective h
  . intro origin hin hin'
    obtain ⟨p, _, rfl⟩ := List.mem_map.1 hin
    obtain ⟨q, _, h⟩ := List.mem_map.1 hin'
    exact (settings.endpoint p).origin_ne_plaintext rfl p q h.symm

theorem nodup_origins (web : String) (manager : Option (String × String))
    : ∀ g ∈ siteGroups settings ++ podGroups settings web manager, g.origins.Nodup := by
  have hsite := nodup_siteOrigins settings
  have hauth (name domain : String) : (candidateOrigins name domain authPorts).Nodup :=
    nodup_candidateOrigins name domain (by decide) (by decide)
  have hagent : (candidateOrigins settings.name settings.domain agentPorts).Nodup :=
    nodup_candidateOrigins _ _ (by decide) (List.Subset.refl _)
  have hkey : (managerOrigins manager).Nodup := by
    cases manager with
    | none => exact List.nodup_nil
    | some host => apply hauth
  unfold siteGroups podGroups
  simp only [List.cons_append, List.nil_append, List.forall_mem_cons]
  exact ⟨hsite, (List.nodup_append'.1 hsite).1, List.nodup_singleton _, hauth _ _, List.nodup_singleton _,
    List.nodup_singleton _, List.nodup_singleton _, hkey, hagent, List.forall_mem_nil _⟩

/-! ### The groups of a run -/

theorem baseUrl_endpoint (port : UInt16)
    : (settings.endpoint port).baseUrl = (settings.endpoint port).origin := by
  rw [Endpoint.baseUrl_eq]
  exact String.append_empty

theorem baseUrl_plaintext_endpoint (port : UInt16)
    : (settings.endpoint port).plaintext.baseUrl = (settings.endpoint port).plaintext.origin := by
  rw [Endpoint.baseUrl_eq]
  exact String.append_empty

theorem urls_clientProbes (ports : List UInt16)
    : ((clientProbes settings ports).map Probe.url).Perm
        (ports.map (fun port => (settings.endpoint port).origin ++ "/")
          ++ ports.map (fun port => (settings.endpoint port).origin ++ clientPath)) := by
  have hurls : (clientProbes settings ports).map Probe.url = ports.flatMap fun port =>
      [(settings.endpoint port).origin ++ "/"] ++ [(settings.endpoint port).origin ++ clientPath] := by
    simp only [clientProbes, List.map_flatMap, ← baseUrl_endpoint]
    rfl
  rw [hurls, List.map_eq_flatMap, List.map_eq_flatMap]
  exact (List.flatMap_append_perm ports _ _).symm

theorem urls_plainProbes (ports : List UInt16)
    : (plainProbes settings ports).map Probe.url
        =
      ports.map fun port => (settings.endpoint port).plaintext.origin ++ "/" := by
  simp only [plainProbes, List.map_map, ← baseUrl_plaintext_endpoint]
  rfl

theorem urls_siteProbes
    : ((clientProbes settings podPorts ++ plainProbes settings podPorts).map Probe.url).Perm
        ((siteGroups settings).flatMap Group.urls) := by
  rw [List.map_append, urls_plainProbes]
  simp only [siteGroups, Group.urls, List.flatMap_cons, List.flatMap_nil, List.map_append, List.map_map,
    List.append_nil]
  apply ((urls_clientProbes settings podPorts).append_right _).trans
  rw [List.append_assoc, List.append_assoc]
  exact (List.perm_append_comm).append_left _

theorem urls_keyCalls (manager : Option (String × String))
    : (keyCalls manager).map Prod.snd
        =
      Group.urls ⟨"/keyauth" ++ authenticatePath, managerOrigins manager⟩ := by
  cases manager with
  | none => rfl
  | some host => apply urls_posts

theorem urls_serviceCalls (web : String) (c : Configuration)
    : (serviceCalls settings web c).map Prod.snd
        =
      (podGroups settings web (managerHost? c)).tail.flatMap Group.urls := by
  unfold serviceCalls podGroups
  rw [List.map_append, List.map_append, List.map_append, urls_posts, urls_keyCalls, urls_posts]
  simp only [List.tail_cons, List.flatMap_cons, List.flatMap_nil, List.append_nil, List.append_assoc]
  simp only [List.map_cons, List.map_nil, Group.urls, String.append_assoc]
  rfl

theorem urls_itinerary (report : Report)
    : ∃ web, ((itinerary settings report).map Prod.snd).Sublist
        ((podGroups settings web (managerHost? report.configuration)).flatMap Group.urls) := by
  unfold itinerary
  split
  . next web _ _ =>
    refine ⟨web, ?_⟩
    rw [List.map_cons]
    apply List.Sublist.cons_cons
    split
    . rw [urls_serviceCalls]
      rfl
    . apply List.nil_sublist
  . exact ⟨"", List.nil_sublist _⟩

theorem nodup_url_run (store : TokenStore)
    : ((run settings e store).journal.exchanges.map fun x => x.sent.url).Nodup := by
  have hcalls := calls_exchanges_run settings e store
  obtain ⟨ps, hps, hsite⟩ := exchanges_detectSite settings e { store }
  obtain ⟨web, hpod⟩ := urls_itinerary settings (run settings e store).value.1
  generalize managerHost? _ = manager at hpod
  have hurls : ((run settings e store).journal.exchanges.map fun x => x.sent.url)
      = ps.map Probe.url ++ (itinerary settings (run settings e store).value.1).map Prod.snd := by
    have h := congrArg (List.map Prod.snd) hcalls
    rw [hsite, e.call_exchanges, List.map_append, List.map_map, List.map_map] at h
    exact h
  have hnodup := nodup_groups (nodup_origins settings web manager) (unnested_endings settings web manager)
  rw [List.flatMap_append] at hnodup
  rw [hurls]
  -- Answers only leave requests out, and the detection only shuffles its groups.
  apply List.Nodup.sublist ((hps.map Probe.url).append hpod)
  exact (((urls_siteProbes settings).append_right _).nodup_iff).2 hnodup

end PodProbe.Discovery
