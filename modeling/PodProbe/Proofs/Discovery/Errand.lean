import PodProbe.Proofs.Discovery.Course
import PodProbe.Proofs.Endpoint.Origin
import PodProbe.Proofs.Probe.Attach

/-!
This module contains the errands that the requests of a run are on. Where a request goes tells its errand, and the
URLs of a service end as no other request of a run does, whatever the names and hosts in them.
-/

namespace PodProbe.Discovery

/-- Neither of two texts ends in the other. -/
def Unnested (s t : String) : Prop :=
  ¬ s.toList <:+ t.toList ∧ ¬ t.toList <:+ s.toList

instance (s t : String) : Decidable (Unnested s t) :=
  inferInstanceAs (Decidable (_ ∧ _))

theorem Unnested.not_suffix {s t : String} (h : Unnested s t) (a : String) : ¬ t.toList <:+ (a ++ s).toList := by
  intro ht
  have hs : s.toList <:+ (a ++ s).toList := by
    rw [String.toList_append]
    apply List.suffix_append
  -- Both are endings of one text, so that the shorter one is an ending of the longer one.
  cases List.suffix_or_suffix_of_suffix hs ht with
  | inl hst => exact h.1 hst
  | inr hts => exact h.2 hts

/-- What a run asks for once it knows that the pod is healthy. -/
inductive Service where
  | sessionAuth
  | sessionInfo
  | checkAuth
  | podInfo
  | keyAuth
  | agent
deriving DecidableEq, Repr

inductive Errand where
  | site
  | client
  | plainSite
  | health
  | service (s : Service)
deriving DecidableEq, Repr

def AuthKind.service : AuthKind → Service
  | session => .sessionAuth
  | key => .keyAuth

namespace Service

def all : List Service := [sessionAuth, sessionInfo, checkAuth, podInfo, keyAuth, agent]

theorem mem_all (s : Service) : s ∈ all := by
  cases s <;> decide

def basePath : Service → String
  | sessionAuth => "/sessionauth"
  | sessionInfo => "/pod"
  | checkAuth => ""
  | podInfo => ""
  | keyAuth => "/keyauth"
  | agent => "/agent"

def path : Service → String
  | sessionAuth => authenticatePath
  | sessionInfo => sessionInfoPath
  | checkAuth => checkAuthPath
  | podInfo => podInfoPath
  | keyAuth => authenticatePath
  | agent => echoPath

def Owns (s : Service) (url : String) : Prop :=
  (s.basePath ++ s.path).toList <:+ url.toList

instance (s : Service) (url : String) : Decidable (s.Owns url) :=
  inferInstanceAs (Decidable (_ <:+ _))

end Service

namespace Errand

def all : List Errand := [site, client, plainSite, health] ++ Service.all.map service

theorem mem_all (errand : Errand) : errand ∈ all := by
  cases errand with
  | service s => exact List.mem_append_right _ (List.mem_map_of_mem s.mem_all)
  | _ => decide

def scheme : Errand → Scheme
  | plainSite => .http
  | _ => .https

def basePath : Errand → String
  | service s => s.basePath
  | _ => ""

def path : Errand → String
  | site => "/"
  | client => clientPath
  | plainSite => "/"
  | health => healthCheckPath
  | service s => s.path

structure Asks (errand : Errand) (p : Probe) : Prop where
  scheme_eq : p.endpoint.scheme = errand.scheme
  basePath_eq : p.endpoint.basePath = errand.basePath
  path_eq : p.path = errand.path

instance (errand : Errand) (p : Probe) : Decidable (errand.Asks p) :=
  decidable_of_iff (p.endpoint.scheme = errand.scheme ∧ p.endpoint.basePath = errand.basePath ∧ p.path = errand.path)
    ⟨fun h => ⟨h.1, h.2.1, h.2.2⟩, fun h => ⟨h.scheme_eq, h.basePath_eq, h.path_eq⟩⟩

theorem place_injective
    : ∀ a ∈ all, ∀ b ∈ all, a.scheme = b.scheme → a.basePath = b.basePath → a.path = b.path → a = b := by
  decide

theorem eq_of_asks {a b : Errand} {p : Probe} (ha : a.Asks p) (hb : b.Asks p) : a = b := by
  apply place_injective a a.mem_all b b.mem_all
  . rw [← ha.scheme_eq, hb.scheme_eq]
  . rw [← ha.basePath_eq, hb.basePath_eq]
  . rw [← ha.path_eq, hb.path_eq]

/-- Whether a request is on another errand than to ask a service. -/
def Foreign (s : Service) (p : Probe) : Prop :=
  ∃ errand, errand.Asks p ∧ errand ≠ service s

theorem foreign_of_asks {s s' : Service} {p : Probe} (h : (service s').Asks p) (hne : s' ≠ s) : Foreign s p :=
  ⟨service s', h, fun heq => hne (service.inj heq)⟩

theorem Foreign.not_asks {s : Service} {p : Probe} (h : Foreign s p) : ¬ (service s).Asks p := by
  obtain ⟨errand, hasks, hne⟩ := h
  intro hservice
  exact hne (eq_of_asks hasks hservice)

theorem Asks.url_eq {errand : Errand} {p : Probe} (h : errand.Asks p)
    : p.url = p.endpoint.origin ++ (errand.basePath ++ errand.path) := by
  unfold Probe.url
  rw [Endpoint.baseUrl_eq, h.basePath_eq, h.path_eq, String.append_assoc]

theorem unnested_service
    : ∀ s ∈ Service.all, ∀ a ∈ all, a ≠ service s → Unnested (a.basePath ++ a.path) (s.basePath ++ s.path) := by
  decide

theorem Asks.owns_iff {errand : Errand} {p : Probe} (h : errand.Asks p) (s : Service)
    : s.Owns p.url ↔ errand = service s := by
  unfold Service.Owns
  rw [h.url_eq]
  by_cases heq : errand = service s
  . refine iff_of_true ?_ heq
    rw [heq]
    exact ⟨p.endpoint.origin.toList, String.toList_append.symm⟩
  . have hunnested := unnested_service s s.mem_all errand errand.mem_all heq
    exact iff_of_false (hunnested.not_suffix _) heq

theorem Foreign.not_owns {s : Service} {p : Probe} (h : Foreign s p) : ¬ s.Owns p.url := by
  obtain ⟨errand, hasks, hne⟩ := h
  rw [hasks.owns_iff]
  exact hne

theorem asks_siteProbes {settings : Settings} {p : Probe}
    (h : p ∈ clientProbes settings podPorts ++ plainProbes settings podPorts)
    : ∃ errand ∈ [site, client, plainSite], errand.Asks p := by
  simp only [clientProbes, plainProbes, List.mem_append, List.mem_flatMap, List.mem_map, List.mem_cons] at h
  rcases h with ⟨_, _, rfl | rfl | h⟩ | ⟨_, _, rfl⟩
  . exact ⟨site, by decide, rfl, rfl, rfl⟩
  . exact ⟨client, by decide, rfl, rfl, rfl⟩
  . cases h
  . exact ⟨plainSite, by decide, rfl, rfl, rfl⟩

theorem asks_healthProbe (settings : Settings) (port : UInt16) : health.Asks (healthProbe (settings.endpoint port)) :=
  ⟨rfl, rfl, rfl⟩

theorem asks_authProbes (kind : AuthKind) {name domain : String} {tokens : Tokens} {p : Probe}
    (h : p ∈ authProbes kind name domain tokens) : (service kind.service).Asks p := by
  obtain ⟨endpoint, hendpoint, rfl⟩ := List.mem_map.1 h
  obtain ⟨suffix, _, port, _, rfl⟩ := Endpoint.mem_candidates.1 hendpoint
  rw [Tokens.asHeaders_eq, Tokens.asCookies_eq]
  cases kind <;> exact ⟨rfl, rfl, rfl⟩

theorem asks_sessionInfoProbe (settings : Settings) (port : UInt16) (tokens : Tokens)
    : (service .sessionInfo).Asks (sessionInfoProbe (settings.endpoint port) tokens) := by
  unfold sessionInfoProbe
  rw [Tokens.asCookies_eq]
  exact ⟨rfl, rfl, rfl⟩

theorem asks_checkAuthProbe (settings : Settings) (port : UInt16) (tokens : Tokens)
    : (service .checkAuth).Asks (checkAuthProbe (settings.endpoint port) tokens) := by
  unfold checkAuthProbe
  rw [Tokens.asCookies_eq]
  exact ⟨rfl, rfl, rfl⟩

theorem asks_podInfoProbe (settings : Settings) (port : UInt16)
    : (service .podInfo).Asks (podInfoProbe (settings.endpoint port)) :=
  ⟨rfl, rfl, rfl⟩

theorem asks_ownProbes {settings : Settings} {port : UInt16} {tokens : Tokens} {p : Probe}
    (h : p ∈ ownProbes (settings.endpoint port) tokens)
    : ∃ s ∈ [Service.sessionInfo, .checkAuth, .podInfo], (service s).Asks p := by
  simp only [ownProbes, List.mem_cons, List.not_mem_nil, or_false] at h
  rcases h with rfl | rfl | rfl
  . exact ⟨.sessionInfo, by decide, asks_sessionInfoProbe settings port tokens⟩
  . exact ⟨.checkAuth, by decide, asks_checkAuthProbe settings port tokens⟩
  . exact ⟨.podInfo, by decide, asks_podInfoProbe settings port⟩

theorem foreign_ownProbes {settings : Settings} {port : UInt16} {tokens : Tokens} {p : Probe}
    (h : p ∈ ownProbes (settings.endpoint port) tokens) {s : Service}
    (hs : s ∉ [Service.sessionInfo, .checkAuth, .podInfo])
    : Foreign s p := by
  obtain ⟨own, hown, hasks⟩ := asks_ownProbes h
  apply foreign_of_asks hasks
  rintro rfl
  exact hs hown

theorem asks_keyProbes {settings : Settings} {e : Executor} {pod : Endpoint} {p : Probe}
    (h : p ∈ keyProbes settings e pod) : (service .keyAuth).Asks p := by
  unfold keyProbes at h
  split at h
  . exact asks_authProbes .key h
  . cases h

theorem asks_agentProbes {settings : Settings} {tokens : Tokens} {p : Probe} (h : p ∈ agentProbes settings tokens)
    : (service .agent).Asks p := by
  obtain ⟨endpoint, hendpoint, rfl⟩ := List.mem_map.1 h
  obtain ⟨suffix, _, port, _, rfl⟩ := Endpoint.mem_candidates.1 hendpoint
  rw [Tokens.asHeaders_eq]
  exact ⟨rfl, rfl, rfl⟩

end Errand

end PodProbe.Discovery
