import PodProbe.Proofs.Probe.Attach
import PodProbe.Proofs.Text.Occurrence

/-!
This module contains what the header of the cookies tells of the tokens in it. Values are written into it as they are,
so a session token that looks like the end of one cookie and the start of the next is taken for two tokens; all other
tokens can be told from the header.
-/

namespace PodProbe.Tokens

/-- What stands before a key manager token that follows on a session token. -/
def managerCookie : String := "; kmsession="

/-- Whether the session token cannot be taken for two cookies. -/
def Unmistakable (t : Tokens) : Prop :=
  ∀ s ∈ t.session, ¬ managerCookie.toList <:+: s.toList

def behindSession (keyManager : Option String) : String :=
  keyManager.elim "" (managerCookie ++ ·)

theorem cookieHeader?_asCookies (t : Tokens) {p : Probe} (hp : p.request.cookies = [])
    : (t.asCookies p).request.cookieHeader?
        =
      match t.session with
      | some s => some ("skey=" ++ (s ++ behindSession t.keyManager))
      | none => t.keyManager.map ("kmsession=" ++ ·) := by
  rw [asCookies_eq, hp, List.nil_append]
  rcases t with ⟨_ | s, _ | k⟩
  case none.none => rfl
  all_goals
    apply congrArg some
    apply String.toList_injective
    simp [cookies, toList, TokenKind.cookieName, behindSession, managerCookie]

/-! ### Both tokens in one text -/

theorem infix_append_managerCookie (s k : String) : managerCookie.toList <:+: (s ++ (managerCookie ++ k)).toList := by
  rw [String.toList_append, String.toList_append]
  exact ⟨s.toList, k.toList, List.append_assoc _ _ _⟩

theorem exists_eq_append_managerCookie {s : String} (h : managerCookie.toList <:+: s.toList)
    : ∃ t k, s = t ++ (managerCookie ++ k) := by
  rcases h with ⟨before, after, h⟩
  refine ⟨String.ofList before, String.ofList after, ?_⟩
  apply String.toList_injective
  rw [← h]
  simp

theorem append_managerCookie_inj {s t a b : String} (hs : ¬ managerCookie.toList <:+: s.toList)
    (ht : ¬ managerCookie.toList <:+: t.toList) (h : s ++ (managerCookie ++ a) = t ++ (managerCookie ++ b))
    : s = t ∧ a = b := by
  have hlist := congrArg String.toList h
  simp only [String.toList_append] at hlist
  rcases Text.append_separator_inj (show ';' ∉ managerCookie.toList.tail by decide) hs ht hlist with ⟨hst, hab⟩
  exact ⟨String.toList_injective hst, String.toList_injective hab⟩

theorem append_behindSession_inj {s t : String} {a b : Option String} (hs : ¬ managerCookie.toList <:+: s.toList)
    (ht : ¬ managerCookie.toList <:+: t.toList) (h : s ++ behindSession a = t ++ behindSession b)
    : s = t ∧ a = b := by
  cases a with
  | none =>
    rw [behindSession, Option.elim_none, String.append_empty] at h
    cases b with
    | none => exact ⟨h.trans String.append_empty, rfl⟩
    | some k => exact absurd (h ▸ infix_append_managerCookie t k) hs
  | some j =>
    cases b with
    | none =>
      have heq : t = s ++ (managerCookie ++ j) := (h.trans String.append_empty).symm
      exact absurd (heq ▸ infix_append_managerCookie s j) ht
    | some k =>
      rcases append_managerCookie_inj hs ht h with ⟨hst, hjk⟩
      exact ⟨hst, congrArg some hjk⟩

theorem session_ne_manager (s k : String) : "skey=" ++ s ≠ "kmsession=" ++ k := by
  intro h
  have hlist := congrArg String.toList h
  simp at hlist

/-! ### What the header tells -/

section

variable {p : Probe} (hp : p.request.cookies = [])
include hp

theorem eq_of_cookieHeader?_eq {t u : Tokens} (ht : t.Unmistakable) (hu : u.Unmistakable)
    (h : (t.asCookies p).request.cookieHeader? = (u.asCookies p).request.cookieHeader?)
    : t = u := by
  rw [cookieHeader?_asCookies t hp, cookieHeader?_asCookies u hp] at h
  rcases t with ⟨_ | s, k⟩ <;> rcases u with ⟨_ | s', k'⟩
  case none.none =>
    have hmanager : k = k' := Option.map_injective (fun _ _ => (String.append_right_inj _).1) h
    rw [hmanager]
  case none.some =>
    rcases Option.map_eq_some_iff.1 h with ⟨_, _, heq⟩
    exact absurd heq.symm (session_ne_manager _ _)
  case some.none =>
    rcases Option.map_eq_some_iff.1 h.symm with ⟨_, _, heq⟩
    exact absurd heq.symm (session_ne_manager _ _)
  case some.some =>
    have hjoined := (String.append_right_inj _).1 (Option.some.inj h)
    rcases append_behindSession_inj (ht s rfl) (hu s' rfl) hjoined with ⟨hsession, hmanager⟩
    exact eq_of_get (congrArg some hsession) hmanager

theorem exists_cookieHeader?_eq {t : Tokens} (ht : ¬ t.Unmistakable)
    : ∃ u : Tokens, u.keyManager.isSome ∧ u ≠ t
        ∧ (u.asCookies p).request.cookieHeader? = (t.asCookies p).request.cookieHeader? := by
  rcases t with ⟨session, keyManager⟩
  simp only [Unmistakable, not_forall, not_not] at ht
  rcases ht with ⟨s, rfl, hoccurs⟩
  rcases exists_eq_append_managerCookie hoccurs with ⟨s', k, rfl⟩
  refine ⟨{ session := some s', keyManager := some (k ++ behindSession keyManager) }, rfl, ?_, ?_⟩
  . intro heq
    have hlength := congrArg String.length (Option.some.inj (congrArg Tokens.session heq))
    simp only [String.length_append] at hlength
    have hpos : managerCookie.length = 12 := rfl
    omega
  . rw [cookieHeader?_asCookies _ hp, cookieHeader?_asCookies _ hp]
    simp only [behindSession, Option.elim_some, String.append_assoc]

theorem cookieHeader?_eq_session_iff (s : String)
    : let session : Tokens := { session := some s }
      (∃ u : Tokens, u.keyManager.isSome
          ∧ (u.asCookies p).request.cookieHeader? = (session.asCookies p).request.cookieHeader?)
        ↔
      managerCookie.toList <:+: s.toList := by
  intro session
  constructor
  . rintro ⟨⟨session', keyManager⟩, hmanager, h⟩
    rcases Option.isSome_iff_exists.1 hmanager with ⟨k, rfl⟩
    rw [cookieHeader?_asCookies _ hp, cookieHeader?_asCookies _ hp] at h
    cases session' with
    | none => exact absurd (Option.some.inj h).symm (session_ne_manager _ _)
    | some s' =>
      have hjoined : s' ++ (managerCookie ++ k) = s :=
        ((String.append_right_inj _).1 (Option.some.inj h)).trans String.append_empty
      rw [← hjoined]
      exact infix_append_managerCookie s' k
  . intro hoccurs
    rcases exists_cookieHeader?_eq hp (t := session) fun ht => ht s rfl hoccurs with ⟨u, hmanager, _, h⟩
    exact ⟨u, hmanager, h⟩

/-- How far a header tells the tokens that it was made from. -/
structure Identifies (header : Tokens → Option String) : Prop where
  eq_of_eq : ∀ t u : Tokens, t.Unmistakable → u.Unmistakable → header t = header u → t = u
  exists_other : ∀ t : Tokens, ¬ t.Unmistakable → ∃ u ≠ t, header u = header t
  /-- Whether a session token alone makes a header that a key manager token could be in. -/
  forges_iff : ∀ s : String,
    (∃ u : Tokens, u.keyManager.isSome ∧ header u = header { session := some s }) ↔ managerCookie.toList <:+: s.toList

theorem identifies_cookieHeader? : Identifies fun t => (t.asCookies p).request.cookieHeader? := by
  constructor
  case eq_of_eq =>
    intro t u ht hu h
    exact eq_of_cookieHeader?_eq hp ht hu h
  case exists_other =>
    intro t ht
    rcases exists_cookieHeader?_eq hp ht with ⟨u, _, hne, h⟩
    exact ⟨u, hne, h⟩
  case forges_iff => exact cookieHeader?_eq_session_iff hp

end

theorem identifies_cookieHeader?_acme
    : let pod : Endpoint := { name := "acme", suffix := "", domain := ".symphony.com", port := 443, basePath := "/pod" }
      let p := pod.probe "/v2/sessioninfo" none
      p.request.cookies = [] ∧ Identifies fun t => (t.asCookies p).request.cookieHeader? :=
  ⟨rfl, identifies_cookieHeader? rfl⟩

/-- A session token alone may give the header that two tokens give. -/
theorem cookieHeader?_forged_eq
    : let pod : Endpoint := { name := "acme", suffix := "", domain := ".symphony.com", port := 443, basePath := "/pod" }
      let p := pod.probe "/v2/sessioninfo" none
      let forged : Tokens := { session := some "a; kmsession=b" }
      let both : Tokens := { session := some "a", keyManager := some "b" }
      forged ≠ both
        ∧ (forged.asCookies p).request.cookieHeader? = some "skey=a; kmsession=b"
        ∧ (both.asCookies p).request.cookieHeader? = some "skey=a; kmsession=b" := by
  decide

end PodProbe.Tokens
