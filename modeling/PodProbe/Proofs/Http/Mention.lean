import PodProbe.Http.Isolated
import PodProbe.Proofs.Tls.Classification
import PodProbe.Proofs.Url.Blankless

/-!
This module contains what the URL that the error of a request mentions has to do with what the failure counts as. It is
searched for the markers of a demand for a client certificate like the rest of the text, and so it can make any error
one; but for that it makes no difference.
-/

namespace PodProbe

theorem Failure.kind_eq_clientCertificateRequired_iff {f : Failure}
    : f.kind = .clientCertificateRequired ↔ f = .clientCertificateRequired := by
  cases f <;> simp [kind]

namespace ErrorChain

theorem toList_message_ofRequest (action url : String) (cause : Option ErrorChain)
    : (ofRequest action (some url) cause).message.toList
        =
      (action.toList ++ ' ' :: "for url ".toList)
        ++ '(' :: (url.toList ++ ')' :: (cause.elim "" fun e => ": " ++ e.message).toList) := by
  have hmessage : (ofRequest action (some url) cause).message
      = action ++ (" for url (" ++ url ++ ")") ++ cause.elim "" fun e => ": " ++ e.message := rfl
  rw [hmessage]
  simp

theorem walk_ofRequest (action : String) (url : Option String) (cause : Option ErrorChain)
    : (ofRequest action url cause).walk = ofRequest action url cause :: cause.elim [] walk :=
  walk_eq _

end ErrorChain

namespace Tls

/-- The characters between the parts of what is said of the error of a request. -/
def signs : List Char :=
  [' ', '(', ')', ':']

theorem toLower_of_mem_signs {c : Char} (h : c ∈ signs) : c.toLower = c := by
  have hall : signs.all fun c => c.toLower == c := by
    decide
  exact beq_iff_eq.1 (List.all_eq_true.1 hall c h)

theorem sign_not_mem_marker {m : String} (hm : m ∈ clientCertificateMarkers) {c : Char} (hc : c ∈ signs)
    : c ∉ Text.lower m.toList := by
  have hall : clientCertificateMarkers.all fun m => (Text.lower m.toList).all fun c => !signs.contains c := by
    decide
  intro hmem
  have hnot := List.all_eq_true.1 (List.all_eq_true.1 hall m hm) c hmem
  rw [List.contains_iff_mem.2 hc] at hnot
  cases hnot

theorem not_infix_connective
    : ∀ m ∈ clientCertificateMarkers, ∀ s ∈ ["", ":", "for url "], ¬ Text.lower m.toList <:+: Text.lower s.toList := by
  decide

theorem showsMarker_message_ofRequest_iff {action url : String} {cause : Option ErrorChain}
    : ShowsMarker (ErrorChain.ofRequest action (some url) cause).message
        ↔
      ShowsMarker action ∨ ShowsMarker url ∨ ∃ e ∈ cause, ShowsMarker e.message := by
  have hcut {m : String} (hm : m ∈ clientCertificateMarkers) {c : Char} (hc : c ∈ signs) (before after : List Char)
      : Text.lower m.toList <:+: Text.lower (before ++ c :: after)
        ↔ Text.lower m.toList <:+: Text.lower before ∨ Text.lower m.toList <:+: Text.lower after := by
    unfold Text.lower
    rw [List.map_append, List.map_cons, toLower_of_mem_signs hc]
    exact Text.infix_append_cons_iff (sign_not_mem_marker hm hc) _ _
  have hcause {m : String} (hm : m ∈ clientCertificateMarkers)
      : Text.lower m.toList <:+: Text.lower (cause.elim "" fun e => ": " ++ e.message).toList
        ↔ ∃ e ∈ cause, Text.lower m.toList <:+: Text.lower e.message.toList := by
    cases cause with
    | none => simpa using not_infix_connective m hm "" (by decide)
    | some e =>
      have htail : (": " ++ e.message).toList = ":".toList ++ ' ' :: e.message.toList := by
        simp
      rw [Option.elim_some, htail, hcut hm (by decide)]
      have hnot := not_infix_connective m hm ":" (by decide)
      simp only [hnot, false_or, Option.mem_def, Option.some.injEq, exists_eq_left']
  unfold ShowsMarker
  rw [ErrorChain.toList_message_ofRequest]
  constructor
  . rintro ⟨m, hm, hshows⟩
    rw [hcut hm (by decide), hcut hm (by decide), hcut hm (by decide), hcause hm] at hshows
    rcases hshows with (haction | hfor) | hurl | ⟨e, he, hshows⟩
    . exact Or.inl ⟨m, hm, haction⟩
    . exact absurd hfor (not_infix_connective m hm _ (by decide))
    . exact Or.inr (Or.inl ⟨m, hm, hurl⟩)
    . exact Or.inr (Or.inr ⟨e, he, m, hm, hshows⟩)
  . rintro (⟨m, hm, haction⟩ | ⟨m, hm, hurl⟩ | ⟨e, he, m, hm, hshows⟩)
    all_goals
      refine ⟨m, hm, ?_⟩
      rw [hcut hm (by decide), hcut hm (by decide), hcut hm (by decide), hcause hm]
    . exact Or.inl (Or.inl haction)
    . exact Or.inr (Or.inl hurl)
    . exact Or.inr (Or.inr ⟨e, he, hshows⟩)

end Tls

namespace Http

namespace TransportError

theorem failure_eq_clientCertificateRequired_iff {e : TransportError}
    : e.failure = .clientCertificateRequired ↔ e.chain.walk.any ErrorChain.demands := by
  have hclassify : Tls.classify e.chain = Tls.settled none e.chain.walk := Tls.classifyFrom_eq none _
  rw [← Tls.settled_eq_required_iff, ← hclassify]
  unfold failure
  split
  . next hrequired => simp [hrequired]
  . next hother => simp [hother]
  . next hnone =>
    rw [hnone]
    repeat' split
    all_goals simp

/-- The kind of a failure depends on less than the failure does: of the texts, only the passages about lookups count. -/
theorem kind_failure_congr {e e' : TransportError} (hclassify : Tls.classify e.chain = Tls.classify e'.chain)
    (htimeout : e.timeout = e'.timeout) (hconnecting : e.connecting = e'.connecting)
    (hrefuses : refusesConnection e.chain = refusesConnection e'.chain)
    (hlookup : (lookupMarkers.any fun m => Text.occursIn m.toList e.text.toList)
      = lookupMarkers.any fun m => Text.occursIn m.toList e'.text.toList)
    : e.failure.kind = e'.failure.kind := by
  unfold failure
  rw [hclassify, htimeout, hconnecting, hrefuses, hlookup]
  repeat' split
  all_goals rfl

theorem failure_eq_refused {e : TransportError} (hclassify : Tls.classify e.chain = none) (htimeout : e.timeout = false)
    (hconnecting : e.connecting = true) (hrefuses : refusesConnection e.chain = true)
    : e.failure = .refused := by
  unfold failure
  rw [hclassify, htimeout, hconnecting, hrefuses]
  rfl

theorem mem_lookupMarkers : ∀ m ∈ lookupMarkers, ' ' ∈ m.toList ∧ '(' ∉ m.toList ∧ ')' ∉ m.toList := by
  decide

end TransportError

namespace RequestError

/-- Whether an error says that the server wants a client certificate, whatever the URL is. -/
def Demanding (r : RequestError) : Prop :=
  Tls.ShowsMarker r.action ∨ ∃ e ∈ r.cause, ∃ x, e.Reaches x ∧ x.Demands

section

variable (r : RequestError)

theorem walk_at (u : Url) : (r.at u).chain.walk = (r.at u).chain :: r.cause.elim [] ErrorChain.walk :=
  ErrorChain.walk_ofRequest _ _ _

theorem any_demands_walk_at_iff (u : Url)
    : (r.at u).chain.walk.any ErrorChain.demands ↔ r.Demanding ∨ Tls.ShowsMarker u.withoutCredentials.text := by
  have hself : (r.at u).chain.demands = Tls.demandsClientCertificate (r.at u).chain.message := rfl
  have hcause : (r.cause.elim [] ErrorChain.walk).any ErrorChain.demands
      ↔ ∃ e ∈ r.cause, ∃ x, e.Reaches x ∧ x.Demands := by
    cases r.cause with
    | none => simp
    | some e => simpa using ErrorChain.any_demands_walk_iff
  rw [walk_at, List.any_cons, Bool.or_eq_true, hself, Tls.demandsClientCertificate_iff, hcause]
  unfold RequestError.at
  rw [Tls.showsMarker_message_ofRequest_iff]
  unfold Demanding
  -- What is said of the cause in the text of the error itself is what the cause says for itself.
  constructor
  . rintro ((haction | hurl | ⟨e, he, hshows⟩) | hcause)
    . exact Or.inl (Or.inl haction)
    . exact Or.inr hurl
    . exact Or.inl (Or.inr ⟨e, he, e, .self e, Or.inr hshows⟩)
    . exact Or.inl (Or.inr hcause)
  . rintro ((haction | hcause) | hurl)
    . exact Or.inl (Or.inl haction)
    . exact Or.inr hcause
    . exact Or.inl (Or.inr (Or.inl hurl))

theorem failure_at_eq_iff (u : Url)
    : (r.at u).failure = .clientCertificateRequired ↔ r.Demanding ∨ Tls.ShowsMarker u.withoutCredentials.text := by
  rw [TransportError.failure_eq_clientCertificateRequired_iff, any_demands_walk_at_iff]

/-! ### Two URLs -/

theorem exists_toList_intercalate_cons (separator : String) (parts : List String)
    : ∃ rest, ∀ part, (separator.intercalate (part :: parts)).toList = part.toList ++ rest := by
  cases parts with
  | nil =>
    refine ⟨[], ?_⟩
    intro part
    rw [String.toList_intercalate, List.map_singleton, List.intercalate_singleton, List.append_nil]
  | cons part' parts =>
    refine ⟨separator.toList ++ (separator.intercalate (part' :: parts)).toList, ?_⟩
    intro part
    rw [String.toList_intercalate, List.map_cons, List.map_cons, List.intercalate_cons_cons, String.toList_intercalate,
      List.map_cons, List.append_assoc]

/-- Apart from the URL itself, nothing of what is said of an error depends on the URL. -/
theorem exists_toList_text_at
    : ∃ before after, ∀ u : Url,
        (r.at u).text.toList = before ++ '(' :: (u.withoutCredentials.text.toList ++ ')' :: after) := by
  have hmessages (u : Url)
      : (r.at u).chain.messages = (r.at u).chain.message :: r.cause.elim [] ErrorChain.messages := by
    unfold RequestError.at ErrorChain.ofRequest
    cases r.cause <;> rfl
  rcases exists_toList_intercalate_cons ": " (r.cause.elim [] ErrorChain.messages) with ⟨rest, hrest⟩
  refine ⟨r.action.toList ++ ' ' :: "for url ".toList, (r.cause.elim "" fun e => ": " ++ e.message).toList ++ rest, ?_⟩
  intro u
  unfold TransportError.text
  rw [hmessages, hrest]
  unfold RequestError.at
  rw [ErrorChain.toList_message_ofRequest]
  simp only [List.append_assoc, List.cons_append]

section

variable {u v : Url} (hu : Url.Lacks ' ' u.withoutCredentials.text.toList)
  (hv : Url.Lacks ' ' v.withoutCredentials.text.toList)

include hu hv in
/-- A URL cannot show that a name could not be looked up, since that is said with blanks. -/
theorem any_lookupMarkers_congr
    : (TransportError.lookupMarkers.any fun m => Text.occursIn m.toList (r.at u).text.toList)
        =
      TransportError.lookupMarkers.any fun m => Text.occursIn m.toList (r.at v).text.toList := by
  rcases exists_toList_text_at r with ⟨before, after, htext⟩
  have houtside {w : Url} (hw : Url.Lacks ' ' w.withoutCredentials.text.toList) {m : String}
      (hm : m ∈ TransportError.lookupMarkers)
      : m.toList <:+: (r.at w).text.toList ↔ m.toList <:+: before ∨ m.toList <:+: after := by
    rcases TransportError.mem_lookupMarkers m hm with ⟨hblank, hopen, hclose⟩
    have hnot : ¬ m.toList <:+: w.withoutCredentials.text.toList := fun h => hw (h.subset hblank)
    rw [htext, Text.infix_append_cons_iff hopen, Text.infix_append_cons_iff hclose]
    simp only [hnot, false_or]
  rw [Bool.eq_iff_iff, List.any_eq_true, List.any_eq_true]
  apply exists_congr
  intro m
  apply and_congr_right
  intro hm
  rw [Text.occursIn_iff, Text.occursIn_iff, houtside hu hm, houtside hv hm]

include hu hv in
theorem kind_failure_at_congr
    (hdemands : (r.at u).chain.walk.any ErrorChain.demands = (r.at v).chain.walk.any ErrorChain.demands)
    : (r.at u).failure.kind = (r.at v).failure.kind := by
  have hclassify (w : Url) : Tls.classify (r.at w).chain = Tls.settled none (r.at w).chain.walk :=
    Tls.classifyFrom_eq none _
  have hfirst (w : Url) : (r.at w).chain.walk.findSome? ErrorChain.tlsMessage?
      = (r.cause.elim [] ErrorChain.walk).findSome? ErrorChain.tlsMessage? := by
    rw [walk_at]
    rfl
  have hrefuses (w : Url) : TransportError.refusesConnection (r.at w).chain
      = r.cause.elim false TransportError.refusesConnection := by
    unfold RequestError.at ErrorChain.ofRequest
    cases r.cause <;> rfl
  apply TransportError.kind_failure_congr
  case hclassify =>
    rw [hclassify, hclassify]
    unfold Tls.settled
    rw [hdemands, hfirst, hfirst]
  case htimeout => rfl
  case hconnecting => rfl
  case hrefuses => rw [hrefuses, hrefuses]
  case hlookup => exact any_lookupMarkers_congr r hu hv

end

theorem kind_failure_at_eq_iff {s t : String} {u v : Url} (hu : target s = .ok u) (hv : target t = .ok v)
    : (r.at u).failure.kind = (r.at v).failure.kind
        ↔
      r.Demanding ∨ (Tls.ShowsMarker u.withoutCredentials.text ↔ Tls.ShowsMarker v.withoutCredentials.text) := by
  constructor
  . intro hkind
    have hiff := failure_at_eq_iff r u
    rw [← Failure.kind_eq_clientCertificateRequired_iff, hkind, Failure.kind_eq_clientCertificateRequired_iff,
      failure_at_eq_iff] at hiff
    tauto
  . intro h
    apply kind_failure_at_congr r (Url.blankless_target hu) (Url.blankless_target hv)
    rw [Bool.eq_iff_iff, any_demands_walk_at_iff, any_demands_walk_at_iff]
    tauto

end

namespace Example

/-- Nobody listens at an address. -/
def refused : RequestError :=
  noConnection ["tcp connect error"] (.system 111)

/-- A URL on the machine itself. -/
def localUrl (segment : String) : Url where
  scheme := "https"
  authority := some { host := some (.address6 [0, 0, 0, 0, 0, 0, 0, 1]), port := some 8443 }
  path := .rooted [segment]

theorem target_localUrl
    : ∀ segment ∈ ["login", "health", "certificate_unknown"],
        target ("https://[::1]:8443/" ++ segment) = .ok (localUrl segment) := by
  have h : ∀ segment ∈ ["login", "health", "certificate_unknown"],
      (target ("https://[::1]:8443/" ++ segment)).toOption = some (localUrl segment) := by
    decide +kernel
  intro segment hsegment
  have hsome := h segment hsegment
  cases htarget : target ("https://[::1]:8443/" ++ segment) with
  | error e =>
    rw [htarget] at hsome
    cases hsome
  | ok u =>
    rw [htarget] at hsome
    rw [Option.some.inj hsome]

theorem not_showsMarker_localUrl
    : ∀ segment ∈ ["login", "health"], ¬ Tls.ShowsMarker (localUrl segment).withoutCredentials.text := by
  unfold Tls.ShowsMarker
  decide +kernel

theorem not_demanding_refused : ¬ refused.Demanding := by
  have hcause : (refused.cause.elim [] ErrorChain.walk).any ErrorChain.demands = false := by
    decide +kernel
  have haction : ¬ Tls.ShowsMarker refused.action := by
    rw [← Tls.demandsClientCertificate_iff]
    decide +kernel
  rintro (hshows | ⟨e, he, hdemands⟩)
  . exact haction hshows
  . rw [Option.mem_def.1 he, Option.elim_some, Bool.eq_false_iff] at hcause
    exact hcause (ErrorChain.any_demands_walk_iff.2 hdemands)

theorem failure_at_refused : (refused.at (localUrl "login")).failure = .refused := by
  have hquiet : (refused.at (localUrl "login")).chain.walk.any ErrorChain.demands = false := by
    rw [Bool.eq_false_iff, ne_eq, any_demands_walk_at_iff, not_or]
    exact ⟨not_demanding_refused, not_showsMarker_localUrl "login" (by decide)⟩
  have hclassify : Tls.classify (refused.at (localUrl "login")).chain = none :=
    (Tls.classifyFrom_eq none _).trans (Tls.settled_eq_none_iff.2 ⟨hquiet, rfl⟩)
  exact TransportError.failure_eq_refused hclassify rfl rfl rfl

theorem failure_at_refused_of_marker
    : (refused.at (localUrl "certificate_unknown")).failure = .clientCertificateRequired := by
  have hshows : Tls.ShowsMarker (localUrl "certificate_unknown").withoutCredentials.text := by
    rw [← Tls.demandsClientCertificate_iff]
    decide +kernel
  rw [failure_at_eq_iff]
  exact Or.inr hshows

end Example

open Example

theorem kind_failure_at_refused
    : target "https://[::1]:8443/login" = .ok (localUrl "login")
      ∧ target "https://[::1]:8443/health" = .ok (localUrl "health")
      ∧ (refused.at (localUrl "login")).failure.kind = (refused.at (localUrl "health")).failure.kind := by
  have hlogin := target_localUrl "login" (by decide)
  have hhealth := target_localUrl "health" (by decide)
  refine ⟨hlogin, hhealth, (kind_failure_at_eq_iff refused hlogin hhealth).2 (Or.inr ?_)⟩
  exact iff_of_false (not_showsMarker_localUrl _ (by decide)) (not_showsMarker_localUrl _ (by decide))

/-- A path that names a marker makes a server that does not even listen one that wants a client certificate. -/
theorem kind_failure_at_refused_ne
    : target "https://[::1]:8443/login" = .ok (localUrl "login")
      ∧ target "https://[::1]:8443/certificate_unknown" = .ok (localUrl "certificate_unknown")
      ∧ (refused.at (localUrl "login")).failure.kind = .refused
      ∧ (refused.at (localUrl "certificate_unknown")).failure.kind = .clientCertificateRequired := by
  refine ⟨target_localUrl "login" (by decide), target_localUrl "certificate_unknown" (by decide), ?_, ?_⟩
  . rw [failure_at_refused]
    rfl
  . rw [failure_at_refused_of_marker]
    rfl

end RequestError

end Http

end PodProbe
