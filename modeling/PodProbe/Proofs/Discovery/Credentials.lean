import PodProbe.Proofs.Discovery.Errand
import PodProbe.Proofs.Discovery.Services

/-!
This module contains what the requests of a run carry of tokens. Tokens only flow forward: a request carries what the
scans before it have resolved to, as far as its errand calls for it, and nothing that comes from elsewhere.
-/

namespace PodProbe.Discovery

/-! ### What has been resolved -/

/-- The token of the only candidate that offers one. -/
def soleOffer? (answers : List Probe) : Option String :=
  match offering answers with
  | [p] => p.offer?
  | _ => none

theorem soleOffer?_eq_some_iff {answers : List Probe} {token : String}
    : soleOffer? answers = some token ↔ ∃ p, offering answers = [p] ∧ p.offer? = some token := by
  unfold soleOffer?
  split
  . next p h => simp [h]
  . next hne =>
    constructor
    . intro h
      cases h
    . rintro ⟨p, h, _⟩
      exact absurd h (hne p)

theorem Concludes.token_eq {answers : List Probe} {url token : Option String} (h : Concludes answers url token)
    : token = soleOffer? answers := by
  ext t
  rw [h.token_eq_some_iff, soleOffer?_eq_some_iff]

def answersTo (s : Service) (xs : List Exchange) : List Probe :=
  (xs.filter fun x => (Errand.service s).Asks x.sent).map Exchange.answered

/-- The tokens that the scans among some exchanges resolve to. -/
def resolvedIn (xs : List Exchange) : Tokens where
  session := soleOffer? (answersTo .sessionAuth xs)
  keyManager := soleOffer? (answersTo .keyAuth xs)

section

variable (e : Executor) {s : Service} {ps qs : List Probe}

theorem answersTo_append (s : Service) (xs ys : List Exchange)
    : answersTo s (xs ++ ys) = answersTo s xs ++ answersTo s ys := by
  unfold answersTo
  rw [List.filter_append, List.map_append]

theorem answersTo_eq_nil (h : ∀ p ∈ ps, Errand.Foreign s p) : answersTo s (ps.map e.exchange) = [] := by
  unfold answersTo
  rw [List.map_eq_nil_iff, List.filter_eq_nil_iff]
  intro x hx hasks
  obtain ⟨p, hp, rfl⟩ := List.mem_map.1 hx
  exact (h p hp).not_asks (of_decide_eq_true hasks)

theorem answersTo_eq_map (h : ∀ p ∈ ps, (Errand.service s).Asks p)
    : answersTo s (ps.map e.exchange) = ps.map e.execute := by
  unfold answersTo
  rw [List.filter_eq_self.2, List.map_map]
  . rfl
  . intro x hx
    obtain ⟨p, hp, rfl⟩ := List.mem_map.1 hx
    exact decide_eq_true (h p hp)

theorem answersTo_append_of_foreign (h : ∀ q ∈ qs, Errand.Foreign s q)
    : answersTo s ((ps ++ qs).map e.exchange) = answersTo s (ps.map e.exchange) := by
  rw [List.map_append, answersTo_append, answersTo_eq_nil e h, List.append_nil]

theorem answersTo_append_of_asks (hps : ∀ p ∈ ps, Errand.Foreign s p) (hqs : ∀ q ∈ qs, (Errand.service s).Asks q)
    : answersTo s ((ps ++ qs).map e.exchange) = qs.map e.execute := by
  rw [List.map_append, answersTo_append, answersTo_eq_nil e hps, answersTo_eq_map e hqs, List.nil_append]

end

/-! ### What a request carries -/

namespace Errand

def headers (t : Tokens) : Errand → List (String × String)
  | service .keyAuth => (t.session.map ("sessionToken", ·)).toList
  | service .agent => (t.session.map ("sessionToken", ·)).toList ++ (t.keyManager.map ("keyManagerToken", ·)).toList
  | _ => []

def cookies (t : Tokens) : Errand → List (String × String)
  | service .sessionInfo => (t.session.map ("skey", ·)).toList
  | service .checkAuth => (t.session.map ("skey", ·)).toList
  | service .keyAuth => (t.session.map ("skey", ·)).toList
  | _ => []

structure Carries (errand : Errand) (t : Tokens) (p : Probe) : Prop where
  headers_eq : p.request.headers = errand.headers t
  cookies_eq : p.request.cookies = errand.cookies t

theorem cookies_of_keyManager_eq_none {t : Tokens} (h : t.keyManager = none)
    : t.cookies = (t.session.map ("skey", ·)).toList := by
  rcases t with ⟨session, keyManager⟩
  subst h
  cases session <;> rfl

theorem headers_of_keyManager_eq_none {t : Tokens} (h : t.keyManager = none)
    : t.headers = (t.session.map ("sessionToken", ·)).toList := by
  rcases t with ⟨session, keyManager⟩
  subst h
  cases session <;> rfl

theorem headers_agent (t : Tokens) : headers t (service .agent) = t.headers := by
  rcases t with ⟨session, keyManager⟩
  cases session <;> cases keyManager <;> rfl

variable {settings : Settings} {e : Executor} {tokens t : Tokens} {p : Probe}

theorem carries_sessionAuth {name domain : String} (h : p ∈ authProbes .session name domain {})
    : (service .sessionAuth).Carries t p := by
  obtain ⟨endpoint, _, rfl⟩ := List.mem_map.1 h
  exact ⟨rfl, rfl⟩

theorem carries_sessionInfo (port : UInt16) (hkey : tokens.keyManager = none) (hsession : t.session = tokens.session)
    : (service .sessionInfo).Carries t (sessionInfoProbe (settings.endpoint port) tokens) := by
  unfold sessionInfoProbe
  rw [Tokens.asCookies_eq, cookies_of_keyManager_eq_none hkey, ← hsession]
  exact ⟨rfl, rfl⟩

theorem carries_checkAuth (port : UInt16) (hkey : tokens.keyManager = none) (hsession : t.session = tokens.session)
    : (service .checkAuth).Carries t (checkAuthProbe (settings.endpoint port) tokens) := by
  unfold checkAuthProbe
  rw [Tokens.asCookies_eq, cookies_of_keyManager_eq_none hkey, ← hsession]
  exact ⟨rfl, rfl⟩

theorem carries_keyProbes {pod : Endpoint} (h : p ∈ keyProbes settings e pod)
    (hsession : t.session = (sessionTokens settings e).session)
    : (service .keyAuth).Carries t p := by
  have hkey : (sessionTokens settings e).keyManager = none := rfl
  unfold keyProbes at h
  split at h
  . obtain ⟨endpoint, _, rfl⟩ := List.mem_map.1 h
    rw [Tokens.asHeaders_eq, Tokens.asCookies_eq, cookies_of_keyManager_eq_none hkey,
      headers_of_keyManager_eq_none hkey, ← hsession]
    exact ⟨rfl, rfl⟩
  . cases h

theorem carries_agent (h : p ∈ agentProbes settings t) : (service .agent).Carries t p := by
  obtain ⟨endpoint, _, rfl⟩ := List.mem_map.1 h
  rw [Tokens.asHeaders_eq, ← headers_agent]
  exact ⟨rfl, rfl⟩

end Errand

/-! ### One request after the other -/

section

variable {α β : Type} {P : List α → α → Prop} {xs ys : List α}

/-- Whether each element of a list has a property together with those before it. -/
def Throughout (P : List α → α → Prop) (xs : List α) : Prop :=
  ∀ before x after, xs = before ++ x :: after → P before x

theorem throughout_of_subset (h : ∀ before ⊆ xs, ∀ x ∈ xs, P before x) : Throughout P xs := by
  intro before x after heq
  subst heq
  apply h
  . apply List.subset_append_left
  . apply List.mem_append_right
    apply List.mem_cons_self

theorem Throughout.append (hx : Throughout P xs) (hy : Throughout (fun before => P (xs ++ before)) ys)
    : Throughout P (xs ++ ys) := by
  intro before y after heq
  rcases List.append_eq_append_iff.1 heq with ⟨between, rfl, hys⟩ | ⟨between, hxs, hrest⟩
  . exact hy between y after hys
  . cases between with
    | nil =>
      rw [List.append_nil] at hxs
      rw [← hxs, ← List.append_nil xs]
      exact hy [] y after hrest.symm
    | cons z between =>
      obtain ⟨rfl, _⟩ := List.cons.inj hrest
      exact hx before y between hxs

theorem throughout_map {f : β → α} {bs : List β} (h : Throughout (fun before b => P (before.map f) (f b)) bs)
    : Throughout P (bs.map f) := by
  intro before x after heq
  obtain ⟨front, back, rfl, rfl, hback⟩ := List.map_eq_append_iff.1 heq
  obtain ⟨b, back, rfl, rfl, _⟩ := List.map_eq_cons_iff.1 hback
  exact h front b back rfl

end

/-! ### The requests of a run -/

/-- Whether a request comes before all services and carries nothing. -/
def Preliminary (p : Probe) : Prop :=
  ∃ errand ∈ [Errand.site, .client, .plainSite, .health], errand.Asks p ∧ ∀ t, errand.Carries t p

/-- Whether a request carries what was resolved before it, which is also what a run has resolved in the end. -/
def Told (e : Executor) (final : Tokens) (before : List Probe) (p : Probe) : Prop :=
  ∃ errand : Errand, errand.Asks p ∧ ∀ t, t = final ∨ t = resolvedIn (before.map e.exchange) → errand.Carries t p

variable {settings : Settings} {e : Executor} {pod : Endpoint} {ps : List Probe} {final : Tokens}

theorem preliminary_siteProbes {p : Probe}
    (h : p ∈ clientProbes settings podPorts ++ plainProbes settings podPorts) : Preliminary p := by
  simp only [clientProbes, plainProbes, List.mem_append, List.mem_flatMap, List.mem_map, List.mem_cons] at h
  rcases h with ⟨_, _, rfl | rfl | h⟩ | ⟨_, _, rfl⟩
  . exact ⟨.site, by decide, ⟨rfl, rfl, rfl⟩, fun _ => ⟨rfl, rfl⟩⟩
  . exact ⟨.client, by decide, ⟨rfl, rfl, rfl⟩, fun _ => ⟨rfl, rfl⟩⟩
  . cases h
  . exact ⟨.plainSite, by decide, ⟨rfl, rfl, rfl⟩, fun _ => ⟨rfl, rfl⟩⟩

theorem preliminary_healthProbe (port : UInt16) : Preliminary (healthProbe (settings.endpoint port)) :=
  ⟨.health, by decide, ⟨rfl, rfl, rfl⟩, fun _ => ⟨rfl, rfl⟩⟩

theorem Preliminary.foreign {p : Probe} (h : Preliminary p) (s : Service) : Errand.Foreign s p := by
  obtain ⟨errand, hmem, hasks, _⟩ := h
  refine ⟨errand, hasks, ?_⟩
  rintro rfl
  revert hmem
  simp

theorem resolvedIn_preliminary (hps : ∀ p ∈ ps, Preliminary p) : resolvedIn (ps.map e.exchange) = {} := by
  unfold resolvedIn
  rw [answersTo_eq_nil e fun p hp => (hps p hp).foreign .sessionAuth,
    answersTo_eq_nil e fun p hp => (hps p hp).foreign .keyAuth]
  rfl

theorem resolvedIn_sessionAuth (hps : ∀ p ∈ ps, Preliminary p)
    : resolvedIn ((ps ++ authProbes .session settings.name settings.domain {}).map e.exchange)
        =
      sessionTokens settings e := by
  apply Tokens.eq_of_get
  . change soleOffer? (answersTo .sessionAuth _) = _
    rw [answersTo_append_of_asks e (fun p hp => (hps p hp).foreign .sessionAuth)
      fun q hq => Errand.asks_authProbes .session hq]
    exact (concludes_authScan e .session settings.name settings.domain {}).token_eq.symm
  . change soleOffer? (answersTo .keyAuth _) = none
    rw [answersTo_append_of_foreign e fun q hq =>
      Errand.foreign_of_asks (Errand.asks_authProbes .session hq) (by decide)]
    rw [answersTo_eq_nil e fun p hp => (hps p hp).foreign .keyAuth]
    rfl

theorem resolvedIn_keyAuth (hsession : (resolvedIn (ps.map e.exchange)).session = (sessionTokens settings e).session)
    (hps : ∀ p ∈ ps, Errand.Foreign .keyAuth p)
    : resolvedIn ((ps ++ keyProbes settings e pod).map e.exchange) = finalTokens settings e pod := by
  apply Tokens.eq_of_get
  . refine Eq.trans ?_ hsession
    unfold resolvedIn
    rw [answersTo_append_of_foreign e fun q hq => Errand.foreign_of_asks (Errand.asks_keyProbes hq) (by decide)]
  . change soleOffer? (answersTo .keyAuth _) = _
    rw [answersTo_append_of_asks e hps fun q hq => Errand.asks_keyProbes hq]
    exact (concludes_key settings e pod).token_eq.symm

theorem resolvedIn_append_of_foreign {qs : List Probe} (hsession : ∀ q ∈ qs, Errand.Foreign .sessionAuth q)
    (hkey : ∀ q ∈ qs, Errand.Foreign .keyAuth q)
    : resolvedIn ((ps ++ qs).map e.exchange) = resolvedIn (ps.map e.exchange) := by
  unfold resolvedIn
  rw [answersTo_append_of_foreign e hsession, answersTo_append_of_foreign e hkey]

theorem told_preliminary (hps : ∀ p ∈ ps, Preliminary p) : Throughout (Told e final) ps := by
  apply throughout_of_subset
  intro before _ p hp
  obtain ⟨errand, _, hasks, hcarries⟩ := hps p hp
  exact ⟨errand, hasks, fun t _ => hcarries t⟩

theorem told_sessionAuth {name domain : String}
    : Throughout (fun before => Told e final (ps ++ before)) (authProbes .session name domain {}) := by
  apply throughout_of_subset
  intro before _ p hp
  exact ⟨_, Errand.asks_authProbes .session hp, fun t _ => Errand.carries_sessionAuth hp⟩

-- From here on only the session matters, and nothing but its own scan decides on that.
theorem session_of_told {t : Tokens} {before : List Probe}
    (hfinal : final.session = (sessionTokens settings e).session)
    (hsession : (resolvedIn (ps.map e.exchange)).session = (sessionTokens settings e).session)
    (hbefore : ∀ q ∈ before, Errand.Foreign .sessionAuth q)
    (h : t = final ∨ t = resolvedIn ((ps ++ before).map e.exchange))
    : t.session = (sessionTokens settings e).session := by
  cases h with
  | inl h =>
    rw [h]
    exact hfinal
  | inr h =>
    rw [h, ← hsession]
    unfold resolvedIn
    rw [answersTo_append_of_foreign e hbefore]

theorem told_ownProbes (port : UInt16) (hfinal : final.session = (sessionTokens settings e).session)
    (hsession : (resolvedIn (ps.map e.exchange)).session = (sessionTokens settings e).session)
    : Throughout (fun before => Told e final (ps ++ before))
        (ownProbes (settings.endpoint port) (sessionTokens settings e)) := by
  apply throughout_of_subset
  intro before hbefore p hp
  have hforeign : ∀ q ∈ before, Errand.Foreign .sessionAuth q := by
    intro q hq
    exact Errand.foreign_ownProbes (hbefore hq) (by decide)
  simp only [ownProbes, List.mem_cons, List.not_mem_nil, or_false] at hp
  rcases hp with rfl | rfl | rfl
  . refine ⟨_, Errand.asks_sessionInfoProbe settings port _, fun t ht => ?_⟩
    exact Errand.carries_sessionInfo port rfl (session_of_told hfinal hsession hforeign ht)
  . refine ⟨_, Errand.asks_checkAuthProbe settings port _, fun t ht => ?_⟩
    exact Errand.carries_checkAuth port rfl (session_of_told hfinal hsession hforeign ht)
  . exact ⟨_, Errand.asks_podInfoProbe settings port, fun t _ => ⟨rfl, rfl⟩⟩

theorem told_keyProbes (hfinal : final.session = (sessionTokens settings e).session)
    (hsession : (resolvedIn (ps.map e.exchange)).session = (sessionTokens settings e).session)
    : Throughout (fun before => Told e final (ps ++ before)) (keyProbes settings e pod) := by
  apply throughout_of_subset
  intro before hbefore p hp
  have hforeign : ∀ q ∈ before, Errand.Foreign .sessionAuth q := by
    intro q hq
    exact Errand.foreign_of_asks (Errand.asks_keyProbes (hbefore hq)) (by decide)
  refine ⟨_, Errand.asks_keyProbes hp, fun t ht => ?_⟩
  exact Errand.carries_keyProbes hp (session_of_told hfinal hsession hforeign ht)

theorem told_agentProbes (h : resolvedIn (ps.map e.exchange) = final)
    : Throughout (fun before => Told e final (ps ++ before)) (agentProbes settings final) := by
  apply throughout_of_subset
  intro before hbefore p hp
  have hagent (s : Service) (hs : .agent ≠ s) : ∀ q ∈ before, Errand.Foreign s q := by
    intro q hq
    exact Errand.foreign_of_asks (Errand.asks_agentProbes (hbefore hq)) hs
  refine ⟨_, Errand.asks_agentProbes hp, fun t ht => ?_⟩
  have heq : t = final := by
    cases ht with
    | inl ht => exact ht
    | inr ht =>
      rw [ht, resolvedIn_append_of_foreign (hagent _ (by decide)) (hagent _ (by decide))]
      exact h
  rw [heq]
  exact Errand.carries_agent hp

theorem told_fullProbes (hps : ∀ p ∈ ps, Preliminary p) (port : UInt16)
    : let pod := settings.endpoint port
      let final := finalTokens settings e pod
      Throughout (Told e final) (ps ++ fullProbes settings e pod)
        ∧ resolvedIn ((ps ++ fullProbes settings e pod).map e.exchange) = final := by
  intro pod final
  let past := ps ++ authProbes .session settings.name settings.domain {}
  let own := ownProbes pod (sessionTokens settings e)
  have hown (s : Service) (hs : s ∉ [Service.sessionInfo, .checkAuth, .podInfo])
      : ∀ q ∈ own, Errand.Foreign s q := by
    intro q hq
    exact Errand.foreign_ownProbes hq hs
  have hagent (s : Service) (hs : .agent ≠ s) : ∀ q ∈ agentProbes settings final, Errand.Foreign s q := by
    intro q hq
    exact Errand.foreign_of_asks (Errand.asks_agentProbes hq) hs
  have hpast : ∀ p ∈ past ++ own, Errand.Foreign .keyAuth p := by
    rw [List.forall_mem_append, List.forall_mem_append]
    refine ⟨⟨?_, ?_⟩, hown .keyAuth (by decide)⟩
    . intro p hp
      exact (hps p hp).foreign .keyAuth
    . intro p hp
      exact Errand.foreign_of_asks (Errand.asks_authProbes .session hp) (by decide)
  have hfirst : resolvedIn (past.map e.exchange) = sessionTokens settings e := resolvedIn_sessionAuth hps
  have hsecond : resolvedIn ((past ++ own).map e.exchange) = sessionTokens settings e :=
    (resolvedIn_append_of_foreign (hown _ (by decide)) (hown _ (by decide))).trans hfirst
  have hthird : resolvedIn ((past ++ own ++ keyProbes settings e pod).map e.exchange) = final :=
    resolvedIn_keyAuth (congrArg Tokens.session hsecond) hpast
  have hfinal : final.session = (sessionTokens settings e).session := rfl
  unfold fullProbes
  rw [← List.append_assoc, ← List.append_assoc, ← List.append_assoc]
  constructor
  . apply Throughout.append _ (told_agentProbes hthird)
    apply Throughout.append _ (told_keyProbes hfinal (congrArg Tokens.session hsecond))
    apply Throughout.append _ (told_ownProbes port hfinal (congrArg Tokens.session hfirst))
    exact (told_preliminary hps).append told_sessionAuth
  . exact (resolvedIn_append_of_foreign (hagent _ (by decide)) (hagent _ (by decide))).trans hthird

theorem told_podProbes (hps : ∀ p ∈ ps, Preliminary p) (port : UInt16) (certificates : Harvest)
    : let pod := settings.endpoint port
      let tokens := (podReport settings e pod certificates).tokens
      Throughout (Told e tokens) (ps ++ podProbes settings e pod)
        ∧ resolvedIn ((ps ++ podProbes settings e pod).map e.exchange) = tokens := by
  intro pod
  have hhealth : ∀ p ∈ ps ++ [healthProbe pod], Preliminary p := by
    rw [List.forall_mem_append, List.forall_mem_singleton]
    exact ⟨hps, preliminary_healthProbe port⟩
  unfold podProbes podReport
  cases healthTold? (e.execute (healthProbe pod)) with
  | none => exact ⟨told_preliminary hhealth, resolvedIn_preliminary hhealth⟩
  | some health =>
    dsimp only
    rw [List.append_cons]
    exact told_fullProbes hhealth port

theorem told_run (settings : Settings) (e : Executor) (store : TokenStore)
    : let run := run settings e store
      ∃ ps : List Probe, run.journal.exchanges = ps.map e.exchange
        ∧ Throughout (Told e run.value.1.tokens) ps
        ∧ resolvedIn (ps.map e.exchange) = run.value.1.tokens := by
  intro run
  obtain ⟨certificates, hreport, _⟩ := value_run settings e store
  obtain ⟨ps, hsub, hsite⟩ := exchanges_detectSite settings e { store }
  have hpod := mem_endpoints_detectSite settings e { store }
  have hexchanges := exchanges_run settings e store
  dsimp only at hexchanges
  rw [hsite, ← List.map_append] at hexchanges
  have hps : ∀ p ∈ ps, Preliminary p := by
    intro p hp
    exact preliminary_siteProbes (hsub.subset hp)
  refine ⟨_, hexchanges, ?_⟩
  rw [hreport]
  generalize ((detectSite settings e).run { store }).value.1 = found at hpod
  rcases found with ⟨site, pod⟩
  cases pod with
  | none =>
    rw [Option.elim_none, List.append_nil]
    exact ⟨told_preliminary hps, resolvedIn_preliminary hps⟩
  | some pod =>
    obtain ⟨port, _, rfl⟩ := hpod pod rfl
    exact told_podProbes hps port certificates

/-! ### Where tokens go -/

/-- What the requests of a run give away. -/
structure Discreet (xs : List Exchange) : Prop where
  asks : ∀ x ∈ xs, ∃ errand : Errand, errand.Asks x.sent
  carries : ∀ x ∈ xs, ∀ errand : Errand, errand.Asks x.sent → errand.Carries (resolvedIn xs) x.sent
  /-- Nothing that is answered later has an influence. -/
  carries_before : ∀ before x after, xs = before ++ x :: after →
    ∀ errand : Errand, errand.Asks x.sent → errand.Carries (resolvedIn before) x.sent
  secure : ∀ x ∈ xs, x.sent.request.headers ≠ [] ∨ x.sent.request.cookies ≠ [] →
    ∃ rest, x.sent.url = "https://" ++ rest
  /-- A token is the only one that the candidates of its scan offer. -/
  origin : ∀ x ∈ xs, ∀ name value, (name, value) ∈ x.sent.request.headers ++ x.sent.request.cookies →
    ∃ p, p.offer? = some value
      ∧ (offering (answersTo .sessionAuth xs) = [p] ∧ (name = "sessionToken" ∨ name = "skey")
        ∨ offering (answersTo .keyAuth xs) = [p] ∧ name = "keyManagerToken")

theorem Errand.Carries.secure {errand : Errand} {t : Tokens} {p : Probe} (hasks : errand.Asks p)
    (hcarries : errand.Carries t p) (h : p.request.headers ≠ [] ∨ p.request.cookies ≠ [])
    : ∃ rest, p.url = "https://" ++ rest := by
  rw [hcarries.headers_eq, hcarries.cookies_eq] at h
  have hscheme : p.endpoint.scheme = .https := by
    rw [hasks.scheme_eq]
    cases errand with
    | plainSite =>
      revert h
      simp [Errand.headers, Errand.cookies]
    | _ => rfl
  have hstart : Scheme.https.text ++ "://" = "https://" := rfl
  refine ⟨p.endpoint.host ++ p.endpoint.portText ++ (errand.basePath ++ errand.path), ?_⟩
  rw [hasks.url_eq]
  unfold Endpoint.origin
  rw [hscheme, hstart]
  simp only [String.append_assoc]

theorem mem_toList_named {token : Option String} {as name value : String}
    : (name, value) ∈ (token.map (as, ·)).toList ↔ token = some value ∧ name = as := by
  cases token with
  | none => simp
  | some t => simp [eq_comm, and_comm]

theorem Errand.Carries.origin {errand : Errand} {t : Tokens} {p : Probe} (h : errand.Carries t p)
    {name value : String} (hmem : (name, value) ∈ p.request.headers ++ p.request.cookies)
    : t.session = some value ∧ (name = "sessionToken" ∨ name = "skey")
      ∨ t.keyManager = some value ∧ name = "keyManagerToken" := by
  rw [h.headers_eq, h.cookies_eq] at hmem
  cases errand with
  | service s =>
    cases s with
    | sessionInfo => exact Or.inl ((mem_toList_named.1 hmem).imp_right Or.inr)
    | checkAuth => exact Or.inl ((mem_toList_named.1 hmem).imp_right Or.inr)
    | keyAuth =>
      left
      cases List.mem_append.1 hmem with
      | inl hheader => exact (mem_toList_named.1 hheader).imp_right Or.inl
      | inr hcookie => exact (mem_toList_named.1 hcookie).imp_right Or.inr
    | agent =>
      change _ ∈ Errand.headers t _ ++ [] at hmem
      rw [List.append_nil] at hmem
      cases List.mem_append.1 hmem with
      | inl hsession => exact Or.inl ((mem_toList_named.1 hsession).imp_right Or.inl)
      | inr hkey => exact Or.inr (mem_toList_named.1 hkey)
    | _ => cases hmem
  | _ => cases hmem

theorem exists_soleOffer {answers : List Probe} {token : String} (h : soleOffer? answers = some token)
    : ∃ p, p.offer? = some token ∧ offering answers = [p] := by
  obtain ⟨p, hsole, hoffer⟩ := soleOffer?_eq_some_iff.1 h
  exact ⟨p, hoffer, hsole⟩

theorem discreet_of_told {e : Executor} {ps : List Probe}
    (h : Throughout (Told e (resolvedIn (ps.map e.exchange))) ps) : Discreet (ps.map e.exchange) := by
  have hmem : ∀ x ∈ ps.map e.exchange,
      ∃ errand : Errand, errand.Asks x.sent ∧ errand.Carries (resolvedIn (ps.map e.exchange)) x.sent := by
    intro x hx
    obtain ⟨p, hp, rfl⟩ := List.mem_map.1 hx
    obtain ⟨before, after, heq⟩ := List.append_of_mem hp
    obtain ⟨errand, hasks, hcarries⟩ := h before p after heq
    exact ⟨errand, hasks, hcarries _ (Or.inl rfl)⟩
  constructor
  case asks =>
    intro x hx
    obtain ⟨errand, hasks, _⟩ := hmem x hx
    exact ⟨errand, hasks⟩
  case carries =>
    intro x hx errand hasks
    obtain ⟨actual, hactual, hcarries⟩ := hmem x hx
    rw [Errand.eq_of_asks hasks hactual]
    exact hcarries
  case carries_before =>
    apply throughout_map
    intro before p after heq errand hasks
    obtain ⟨actual, hactual, hcarries⟩ := h before p after heq
    rw [Errand.eq_of_asks hasks hactual]
    exact hcarries _ (Or.inr rfl)
  case secure =>
    intro x hx
    obtain ⟨errand, hasks, hcarries⟩ := hmem x hx
    exact hcarries.secure hasks
  case origin =>
    intro x hx name value hpair
    obtain ⟨errand, _, hcarries⟩ := hmem x hx
    cases hcarries.origin hpair with
    | inl hsession =>
      obtain ⟨p, hoffer, hsole⟩ := exists_soleOffer hsession.1
      exact ⟨p, hoffer, Or.inl ⟨hsole, hsession.2⟩⟩
    | inr hkey =>
      obtain ⟨p, hoffer, hsole⟩ := exists_soleOffer hkey.1
      exact ⟨p, hoffer, Or.inr ⟨hsole, hkey.2⟩⟩

theorem exchanges_run_eq (settings : Settings) (e : Executor) (store other : TokenStore)
    : (run settings e other).journal.exchanges = (run settings e store).journal.exchanges := by
  obtain ⟨hvalue, hexchanges⟩ := alike_detectSite (fun _ _ => rfl) { store := other } { store }
  rw [exchanges_run, exchanges_run]
  dsimp only
  rw [hvalue, hexchanges]

theorem discreet_run (settings : Settings) (e : Executor) (store : TokenStore)
    : let run := run settings e store
      Discreet run.journal.exchanges
        ∧ run.value.1.tokens = resolvedIn run.journal.exchanges
        ∧ ∀ other, (Discovery.run settings e other).journal.exchanges = run.journal.exchanges := by
  intro run
  obtain ⟨ps, hexchanges, htold, hresolved⟩ := told_run settings e store
  rw [← hresolved] at htold
  change run.journal.exchanges = _ at hexchanges
  rw [hexchanges]
  refine ⟨discreet_of_told htold, hresolved.symm, ?_⟩
  intro other
  rw [← hexchanges]
  apply exchanges_run_eq

end PodProbe.Discovery
