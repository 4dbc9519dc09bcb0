import PodProbe.Proofs.Discovery.Phase
import PodProbe.Proofs.Probe.Judgement

/-!
This module contains how the detection of the site resolves: which site it is, and with which requests this is found
out, are told by the replies to the probes of the two ports alone. The ports are tried in order, and what comes after
the port that settles the matter is not requested.
-/

namespace PodProbe.Discovery

/-! ### Trying in order -/

section

variable {α : Type} {Wanted : α → Prop} {a : α} {as tried : List α} {found : Option α}

/-- How far a list is tried in search of something: up to the first that is wanted, or to the end if there is none. -/
inductive Tried (Wanted : α → Prop) : List α → Option α → List α → Prop where
  | found {before after : List α} {a : α} (hbefore : ∀ b ∈ before, ¬ Wanted b) (ha : Wanted a)
      : Tried Wanted (before ++ a :: after) (some a) (before ++ [a])
  | exhausted {as : List α} (h : ∀ a ∈ as, ¬ Wanted a) : Tried Wanted as none as

theorem Tried.here (ha : Wanted a) : Tried Wanted (a :: as) (some a) [a] := by
  rw [← List.nil_append (a :: as), ← List.nil_append [a]]
  exact found (List.forall_mem_nil _) ha

theorem Tried.later (ha : ¬ Wanted a) (h : Tried Wanted as found tried)
    : Tried Wanted (a :: as) found (a :: tried) := by
  cases h with
  | @found before after b hbefore hb =>
    rw [← List.cons_append, ← List.cons_append]
    exact found (List.forall_mem_cons.2 ⟨ha, hbefore⟩) hb
  | exhausted h => exact exhausted (List.forall_mem_cons.2 ⟨ha, h⟩)

theorem Tried.sublist (h : Tried Wanted as found tried) : tried.Sublist as := by
  cases h with
  | found _ _ => exact (List.Sublist.refl _).append ((List.nil_sublist _).cons_cons _)
  | exhausted _ => exact List.Sublist.refl _

theorem Tried.mem (h : Tried Wanted as (some a) tried) : a ∈ as := by
  cases h with
  | found _ _ => simp

theorem tried_none_iff : Tried Wanted as none tried ↔ tried = as ∧ ∀ a ∈ as, ¬ Wanted a := by
  constructor
  . intro h
    cases h with
    | exhausted h => exact ⟨rfl, h⟩
  . rintro ⟨rfl, h⟩
    exact .exhausted h

end

/-! ### What the replies show -/

/-- Whether a reply is a page: one with an expected status, and well-formed if it is said to be JSON. -/
def IsPage (statuses : List UInt16) (reply : Reply) : Prop :=
  ∃ r, reply = .response r ∧ r.status ∈ statuses
    ∧ ((∃ t ∈ r.contentType, "json".toList <:+: t.toList) → (∃ c ∈ r.body.toList, Text.isBlank c = false) →
        ∃ payload, Json.ofText r.body = .ok payload)

def IsClient (reply : Reply) : Prop :=
  ∃ r, reply = .response r ∧ r.status = 200 ∧ ∃ t ∈ r.contentType, Probe.Meets "text/html" t

theorem isFailed_receive_iff_isPage {p : Probe} {reply : Reply} (h : p.request.expectedContentType = none)
    : (p.receive reply).isFailed = false ↔ IsPage p.request.expectedStatuses reply := by
  rw [Probe.isFailed_receive_iff]
  unfold IsPage Probe.Passes Probe.SuitsType Probe.CallsForJson Probe.governingType?
  simp [h]

theorem isFailed_receive_clientProbe_iff {endpoint : Endpoint} {reply : Reply}
    : ((clientProbe endpoint).receive reply).isFailed = false ↔ IsClient reply := by
  have hjson : ¬ "json".toList <:+: "text/html".toList := by decide
  rw [Probe.isFailed_receive_iff]
  unfold IsClient Probe.Passes Probe.SuitsType Probe.CallsForJson Probe.governingType? clientProbe Endpoint.probe
  simp only [Option.mem_def, Option.some_or, Option.some.injEq, exists_eq_left', forall_eq', hjson, false_and,
    false_imp_iff, and_true, List.mem_singleton]

variable (settings : Settings) (e : Executor)

def HasSite (port : UInt16) : Prop :=
  IsPage siteStatuses (e.reply (siteProbe (settings.endpoint port)))

def HasClient (port : UInt16) : Prop :=
  IsClient (e.reply (clientProbe (settings.endpoint port)))

def HasPlainSite (port : UInt16) : Prop :=
  IsPage [200] (e.reply (plainProbe (settings.endpoint port)))

def HasPod (port : UInt16) : Prop :=
  HasSite settings e port ∧ HasClient settings e port

theorem isFailed_siteProbe_iff {port : UInt16}
    : (e.execute (siteProbe (settings.endpoint port))).isFailed = false ↔ HasSite settings e port :=
  isFailed_receive_iff_isPage rfl

theorem isFailed_plainProbe_iff {port : UInt16}
    : (e.execute (plainProbe (settings.endpoint port))).isFailed = false ↔ HasPlainSite settings e port :=
  isFailed_receive_iff_isPage rfl

theorem isFailed_clientProbe_iff {port : UInt16}
    : (e.execute (clientProbe (settings.endpoint port))).isFailed = false ↔ HasClient settings e port :=
  isFailed_receive_clientProbe_iff

instance (port : UInt16) : Decidable (HasSite settings e port) :=
  decidable_of_iff _ (isFailed_siteProbe_iff settings e)

/-- The probes of one port. The client is asked for only where there is a website. -/
def visit (port : UInt16) : List Probe :=
  let endpoint := settings.endpoint port
  if HasSite settings e port then [siteProbe endpoint, clientProbe endpoint] else [siteProbe endpoint]

theorem visits_eq {ports : List UInt16} (h : ∀ port ∈ ports, ¬ HasSite settings e port)
    : ports.flatMap (visit settings e) = ports.map fun port => siteProbe (settings.endpoint port) := by
  rw [List.map_eq_flatMap]
  apply List.flatMap_congr
  intro port hport
  exact if_neg (h port hport)

/-- What the site is, at which port the pod is if there is one, and the probes that it takes to tell. -/
inductive Resolved : Site → Option UInt16 → List Probe → Prop where
  | platform {port : UInt16} {tried : List UInt16} (htried : Tried (HasPod settings e) podPorts (some port) tried)
      : Resolved .platform (some port) (tried.flatMap (visit settings e))
  | websiteOnly (hpod : ∀ port ∈ podPorts, ¬ HasPod settings e port)
      (hsite : ∃ port ∈ podPorts, HasSite settings e port)
      : Resolved .websiteOnly none (podPorts.flatMap (visit settings e))
  | nonSslWebsite {port : UInt16} {tried : List UInt16} (hsite : ∀ port ∈ podPorts, ¬ HasSite settings e port)
      (htried : Tried (HasPlainSite settings e) podPorts (some port) tried)
      : Resolved .nonSslWebsite none
          (podPorts.map (fun port => siteProbe (settings.endpoint port))
            ++ tried.map (fun port => plainProbe (settings.endpoint port)))
  | notAWebsite (hsite : ∀ port ∈ podPorts, ¬ HasSite settings e port)
      (hplain : ∀ port ∈ podPorts, ¬ HasPlainSite settings e port)
      : Resolved .notAWebsite none
          (podPorts.map (fun port => siteProbe (settings.endpoint port))
            ++ podPorts.map (fun port => plainProbe (settings.endpoint port)))

/-! ### The detection -/

variable (f : Findings)

theorem tried_findClient (seen : Bool) (ports : List UInt16)
    : ∃ pod tried,
        let r := (findClient settings e seen ports).run f
        Tried (HasPod settings e) ports pod tried
          ∧ r.value.1 = (seen || tried.any (HasSite settings e ·), pod.map settings.endpoint)
          ∧ r.journal.exchanges = (tried.flatMap (visit settings e)).map e.exchange := by
  induction ports generalizing seen f with
  | nil => exact ⟨none, [], .exhausted (List.forall_mem_nil _), by simp [findClient], rfl⟩
  | cons port ports ih =>
    unfold findClient
    simp only [value_bind, exchanges_bind, value_attempt, exchanges_attempt]
    cases hsite : (e.execute (siteProbe (settings.endpoint port))).isFailed with
    | true =>
      have hnot : ¬ HasSite settings e port :=
        mt (isFailed_siteProbe_iff settings e).2 (ne_false_of_eq_true hsite)
      obtain ⟨pod, tried, htried, hvalue, hexchanges⟩ :=
        ih (f.absorb (e.execute (siteProbe (settings.endpoint port)))) seen
      refine ⟨pod, port :: tried, htried.later fun hpod => hnot hpod.1, ?_, ?_⟩
      . rw [if_pos rfl, hvalue]
        simp [hnot]
      . rw [if_pos rfl, hexchanges]
        simp [visit, hnot]
    | false =>
      have hhas : HasSite settings e port := (isFailed_siteProbe_iff settings e).1 hsite
      rw [if_neg Bool.false_ne_true]
      simp only [value_bind, exchanges_bind, value_attempt, exchanges_attempt]
      cases hclient : (e.execute (clientProbe (settings.endpoint port))).isFailed with
      | true =>
        have hnot : ¬ HasClient settings e port :=
          mt (isFailed_clientProbe_iff settings e).2 (ne_false_of_eq_true hclient)
        rw [if_pos rfl]
        simp only [value_bind, exchanges_bind, value_lift, exchanges_lift, Journaled.exchanges_print]
        obtain ⟨pod, tried, htried, hvalue, hexchanges⟩ := ih
          ((f.absorb (e.execute (siteProbe (settings.endpoint port)))).absorb
            (e.execute (clientProbe (settings.endpoint port)))) true
        refine ⟨pod, port :: tried, htried.later fun hpod => hnot hpod.2, ?_, ?_⟩
        . rw [hvalue]
          simp [hhas]
        . rw [hexchanges]
          simp [visit, hhas]
      | false =>
        have hpod : HasPod settings e port := ⟨hhas, (isFailed_clientProbe_iff settings e).1 hclient⟩
        refine ⟨some port, [port], .here hpod, ?_, ?_⟩
        . simp [hhas]
        . simp [visit, hhas]

theorem tried_findPlainSite (ports : List UInt16)
    : ∃ found tried,
        let r := (findPlainSite settings e ports).run f
        Tried (HasPlainSite settings e) ports found tried
          ∧ r.value.1 = found.isSome
          ∧ r.journal.exchanges = (tried.map fun port => plainProbe (settings.endpoint port)).map e.exchange := by
  induction ports generalizing f with
  | nil => exact ⟨none, [], .exhausted (List.forall_mem_nil _), rfl, rfl⟩
  | cons port ports ih =>
    unfold findPlainSite
    simp only [value_bind, exchanges_bind, value_attempt, exchanges_attempt]
    cases hplain : (e.execute (plainProbe (settings.endpoint port))).isFailed with
    | true =>
      have hnot : ¬ HasPlainSite settings e port :=
        mt (isFailed_plainProbe_iff settings e).2 (ne_false_of_eq_true hplain)
      obtain ⟨found, tried, htried, hvalue, hexchanges⟩ :=
        ih (f.absorb (e.execute (plainProbe (settings.endpoint port))))
      refine ⟨found, port :: tried, htried.later hnot, ?_, ?_⟩
      . rw [if_pos rfl, hvalue]
      . rw [if_pos rfl, hexchanges]
        simp
    | false =>
      have hhas : HasPlainSite settings e port := (isFailed_plainProbe_iff settings e).1 hplain
      exact ⟨some port, [port], .here hhas, rfl, rfl⟩

theorem resolved_detectSite
    : ∃ pod probes,
        let r := (detectSite settings e).run f
        Resolved settings e r.value.1.1 pod probes
          ∧ r.value.1.2 = pod.map settings.endpoint
          ∧ r.journal.exchanges = probes.map e.exchange := by
  obtain ⟨pod, tried, htried, hvalue, hexchanges⟩ := tried_findClient settings e f false podPorts
  unfold detectSite
  simp only [value_bind, exchanges_bind, value_lift, exchanges_lift, Journaled.exchanges_print, List.nil_append,
    hvalue, hexchanges, Bool.false_or]
  cases pod with
  | some port => exact ⟨some port, _, .platform htried, rfl, by simp⟩
  | none =>
    obtain ⟨rfl, hpod⟩ := tried_none_iff.1 htried
    rw [Option.map_none, Option.isSome_none, if_neg Bool.false_ne_true]
    by_cases hsite : ∃ port ∈ podPorts, HasSite settings e port
    . rw [if_pos (by simpa using hsite)]
      exact ⟨none, _, .websiteOnly hpod hsite, rfl, by simp⟩
    . rw [if_neg (by simpa using hsite)]
      have hnone : ∀ port ∈ podPorts, ¬ HasSite settings e port := fun port hport h => hsite ⟨port, hport, h⟩
      obtain ⟨found, tried, htried, hvalue, hexchanges⟩ :=
        tried_findPlainSite settings e ((findClient settings e false podPorts).run f).value.2 podPorts
      simp only [value_bind, exchanges_bind, hvalue, hexchanges, visits_eq settings e hnone]
      cases found with
      | some port =>
        refine ⟨none, _, .nonSslWebsite hnone htried, rfl, ?_⟩
        simp
      | none =>
        obtain ⟨rfl, hplain⟩ := tried_none_iff.1 htried
        refine ⟨none, _, .notAWebsite hnone hplain, rfl, ?_⟩
        simp

end PodProbe.Discovery
