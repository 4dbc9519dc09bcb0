import Mathlib.Data.List.Flatten
import PodProbe.Proofs.Discovery.Detection

/-!
This module contains what else holds of the detection of the site: what it leaves in the findings, that it makes its
requests in a fixed order, of which the answers only leave some out, and that it depends on these answers alone.
-/

namespace PodProbe.Discovery

variable (settings : Settings) (e : Executor) (f : Findings)

theorem findings_findClient (seen : Bool) (ports : List UInt16)
    : ∃ certificates,
        let r := ((findClient settings e seen ports).run f).value
        r.2 = { f with
          configuration.webUrl := (r.1.2.map Endpoint.baseUrl).or f.configuration.webUrl
          configuration.certificates := certificates } := by
  induction ports generalizing seen f with
  | nil => exact ⟨f.configuration.certificates, rfl⟩
  | cons port ports ih =>
    unfold findClient
    simp only [value_bind, value_attempt]
    split
    . apply ih
    . simp only [value_bind, value_attempt]
      split
      . apply ih
      . exact ⟨_, rfl⟩

theorem findings_findPlainSite (ports : List UInt16)
    : ∃ certificates,
        ((findPlainSite settings e ports).run f).value.2
          =
        { f with configuration.certificates := certificates } := by
  induction ports generalizing f with
  | nil => exact ⟨f.configuration.certificates, rfl⟩
  | cons port ports ih =>
    unfold findPlainSite
    simp only [value_bind, value_attempt]
    split
    . apply ih
    . exact ⟨_, rfl⟩

theorem value_detectSite
    : ((detectSite settings e).run f).value
        =
      match ((findClient settings e false podPorts).run f).value with
      | ((_, some pod), f) => ((.platform, some pod), f)
      | ((true, none), f) => ((.websiteOnly, none), f)
      | ((false, none), f) =>
        let r := ((findPlainSite settings e podPorts).run f).value
        ((if r.1 then .nonSslWebsite else .notAWebsite, none), r.2) := by
  unfold detectSite
  simp only [value_bind, value_lift]
  rcases ((findClient settings e false podPorts).run f).value with ⟨⟨seen, pod⟩, g⟩
  cases pod with
  | some pod => rfl
  | none =>
    cases seen with
    | true => rfl
    | false =>
      dsimp only
      rw [Option.isSome_none, if_neg Bool.false_ne_true, if_neg Bool.false_ne_true, value_bind]
      rcases ((findPlainSite settings e podPorts).run g).value with ⟨plain, g⟩
      cases plain <;> rfl

theorem findings_detectSite
    : ∃ certificates,
        let r := ((detectSite settings e).run f).value
        r.2 = { f with
          configuration.webUrl := (r.1.2.map Endpoint.baseUrl).or f.configuration.webUrl
          configuration.certificates := certificates } := by
  obtain ⟨certificates, hclient⟩ := findings_findClient settings e f false podPorts
  rw [value_detectSite]
  generalize ((findClient settings e false podPorts).run f).value = r at hclient ⊢
  rcases r with ⟨⟨seen, pod⟩, g⟩
  dsimp only at hclient
  subst hclient
  cases pod with
  | some pod => exact ⟨certificates, rfl⟩
  | none =>
    cases seen with
    | true => exact ⟨certificates, rfl⟩
    | false =>
      obtain ⟨_, hplain⟩ := findings_findPlainSite settings e
        { f with configuration.certificates := certificates } podPorts
      exact ⟨_, hplain⟩

def clientProbes (ports : List UInt16) : List Probe :=
  ports.flatMap fun port => [siteProbe (settings.endpoint port), clientProbe (settings.endpoint port)]

def plainProbes (ports : List UInt16) : List Probe :=
  ports.map fun port => plainProbe (settings.endpoint port)

theorem Resolved.probes_sublist {site : Site} {pod : Option UInt16} {probes : List Probe}
    (h : Resolved settings e site pod probes)
    : probes.Sublist (clientProbes settings podPorts ++ plainProbes settings podPorts) := by
  have hvisits {tried : List UInt16} (h : tried.Sublist podPorts)
      : (tried.flatMap (visit settings e)).Sublist (clientProbes settings podPorts) := by
    refine (List.Sublist.flatMap_right tried fun port _ => ?_).trans (h.flatMap _)
    unfold visit
    split
    . exact List.Sublist.refl _
    . exact (List.nil_sublist _).cons_cons _
  cases h with
  | platform htried => exact (hvisits htried.sublist).trans (List.sublist_append_left _ _)
  | websiteOnly _ _ => exact (hvisits (List.Sublist.refl _)).trans (List.sublist_append_left _ _)
  | nonSslWebsite hsite htried =>
    rw [← visits_eq settings e hsite]
    exact (hvisits (List.Sublist.refl _)).append (htried.sublist.map _)
  | notAWebsite hsite _ =>
    rw [← visits_eq settings e hsite]
    exact (hvisits (List.Sublist.refl _)).append (List.Sublist.refl _)

theorem mem_endpoints_detectSite
    : ∀ pod ∈ ((detectSite settings e).run f).value.1.2, ∃ port ∈ podPorts, pod = settings.endpoint port := by
  obtain ⟨port, probes, hresolved, hpod, _⟩ := resolved_detectSite settings e f
  rw [hpod]
  generalize ((detectSite settings e).run f).value.1.1 = site at hresolved
  cases hresolved with
  | @platform port _ htried =>
    rintro _ ⟨⟩
    exact ⟨port, htried.mem, rfl⟩
  | _ => simp

theorem isPlatform_detectSite
    : ((detectSite settings e).run f).value.1.1 = .platform
        ↔
      ((detectSite settings e).run f).value.1.2.isSome := by
  obtain ⟨port, probes, hresolved, hpod, _⟩ := resolved_detectSite settings e f
  rw [hpod]
  generalize ((detectSite settings e).run f).value.1.1 = site at hresolved ⊢
  cases hresolved <;> simp

theorem exchanges_detectSite
    : ∃ ps : List Probe, ps.Sublist (clientProbes settings podPorts ++ plainProbes settings podPorts)
        ∧ ((detectSite settings e).run f).journal.exchanges = ps.map e.exchange := by
  obtain ⟨_, probes, hresolved, _, hexchanges⟩ := resolved_detectSite settings e f
  exact ⟨probes, Resolved.probes_sublist settings e hresolved, hexchanges⟩

/-! ### What the detection depends on -/

/-- Whether two phases give the same result and make the same exchanges, whatever either of them finds there. -/
def Alike {α : Type} (x y : Phase α) : Prop :=
  ∀ f g, (x.run f).value.1 = (y.run g).value.1 ∧ (x.run f).journal.exchanges = (y.run g).journal.exchanges

section

variable {α β : Type}

theorem Alike.bind {x y : Phase α} {k l : α → Phase β} (h : Alike x y) (hk : ∀ a, Alike (k a) (l a))
    : Alike (x >>= k) (y >>= l) := by
  intro f g
  obtain ⟨hvalue, hexchanges⟩ := h f g
  simp only [value_bind, exchanges_bind]
  rw [hvalue, hexchanges]
  obtain ⟨hvalue', hexchanges'⟩ := hk (y.run g).value.1 (x.run f).value.2 (y.run g).value.2
  exact ⟨hvalue', congrArg _ hexchanges'⟩

theorem alike_pure (a : α) : Alike (pure a) (pure a) := by
  intro f g
  exact ⟨rfl, rfl⟩

theorem alike_lift (x : Journaled α) : Alike (liftM x) (liftM x) := by
  intro f g
  rw [exchanges_lift, exchanges_lift]
  exact ⟨rfl, rfl⟩

theorem alike_configure (change : Configuration → Configuration) : Alike (configure change) (configure change) := by
  intro f g
  exact ⟨rfl, rfl⟩

theorem alike_attempt {e e' : Executor} {p : Probe} (h : e.reply p = e'.reply p)
    : Alike (attempt e p) (attempt e' p) := by
  intro f g
  have hexchange := Executor.exchange_congr h
  rw [value_attempt, value_attempt, exchanges_attempt, exchanges_attempt, hexchange]
  exact ⟨congrArg Exchange.answered hexchange, rfl⟩

end

variable {settings e} {e' : Executor} {ports : List UInt16}

theorem alike_findClient (h : ∀ p ∈ clientProbes settings ports, e.reply p = e'.reply p) (seen : Bool)
    : Alike (findClient settings e seen ports) (findClient settings e' seen ports) := by
  induction ports generalizing seen with
  | nil => apply alike_pure
  | cons port ports ih =>
    unfold clientProbes at h
    rw [List.flatMap_cons, List.cons_append, List.cons_append, List.nil_append, List.forall_mem_cons,
      List.forall_mem_cons] at h
    obtain ⟨hsite, hclient, hports⟩ := h
    unfold findClient
    apply (alike_attempt hsite).bind
    intro site
    split
    . apply ih hports
    . apply (alike_attempt hclient).bind
      intro client
      split
      . apply (alike_lift _).bind
        intro _
        apply ih hports
      . apply (alike_lift _).bind
        intro _
        apply (alike_configure _).bind
        intro _
        apply alike_pure

theorem alike_findPlainSite (h : ∀ p ∈ plainProbes settings ports, e.reply p = e'.reply p)
    : Alike (findPlainSite settings e ports) (findPlainSite settings e' ports) := by
  induction ports with
  | nil => apply alike_pure
  | cons port ports ih =>
    unfold plainProbes at h
    rw [List.map_cons, List.forall_mem_cons] at h
    unfold findPlainSite
    apply (alike_attempt h.1).bind
    intro p
    split
    . exact ih h.2
    . apply (alike_lift _).bind
      intro _
      apply alike_pure

theorem alike_detectSite
    (h : ∀ p ∈ clientProbes settings podPorts ++ plainProbes settings podPorts, e.reply p = e'.reply p)
    : Alike (detectSite settings e) (detectSite settings e') := by
  rw [List.forall_mem_append] at h
  have hend (s : Text.Styled) (found : Site × Option Endpoint)
      : Alike (do Journaled.print s; return found) (do Journaled.print s; return found) :=
    (alike_lift _).bind fun _ => alike_pure found
  unfold detectSite
  apply (alike_lift _).bind
  intro _
  apply (alike_findClient h.1 false).bind
  intro (seen, pod)
  dsimp only
  split
  . apply alike_pure
  . split
    . apply hend
    . apply (alike_findPlainSite h.2).bind
      intro plain
      split
      . apply alike_pure
      . apply hend

end PodProbe.Discovery
