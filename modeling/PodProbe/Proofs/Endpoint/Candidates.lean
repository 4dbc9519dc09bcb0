import PodProbe.Proofs.Endpoint.Origin
import PodProbe.Proofs.Text.Occurrence

/-!
This module contains how the candidates for an endpoint are listed, and that no two of them have the same URL. A domain
may contain colons of its own, but not the suffixes, so that a URL has one colon more if its port is named, and the
port is what comes after the last one.
-/

namespace PodProbe.Endpoint

theorem getElem?_candidates (name domain : String) {suffixes : List String} {ports : List UInt16} (basePath : String)
    {i j : Nat} {suffix : String} {port : UInt16} (hi : suffixes[i]? = some suffix) (hj : ports[j]? = some port)
    : (candidates name domain suffixes ports basePath)[i * ports.length + j]?
        =
      some { name, suffix, domain, port, basePath } := by
  have hlt : j < ports.length := (List.getElem?_eq_some_iff.1 hj).1
  induction suffixes generalizing i with
  | nil => simp at hi
  | cons s suffixes ih =>
    unfold candidates at ih ⊢
    rw [List.flatMap_cons]
    cases i with
    | zero =>
      cases hi
      rw [Nat.zero_mul, Nat.zero_add, List.getElem?_append_left (by rwa [List.length_map]), List.getElem?_map, hj]
      rfl
    | succ i =>
      have hindex : (i + 1) * ports.length + j = ports.length + (i * ports.length + j) := by
        rw [Nat.succ_mul, Nat.add_right_comm, Nat.add_comm]
      rw [hindex, List.getElem?_append_right (by rw [List.length_map]; exact Nat.le_add_right _ _), List.length_map,
        Nat.add_sub_cancel_left]
      exact ih hi

/-! ### Colons -/

theorem colon_not_mem_toDigits (n : Nat) : ':' ∉ Nat.toDigits 10 n := by
  intro h
  have hdigit : (':' : Char).isDigit := Nat.isDigit_of_mem_toDigits (by decide) (by decide) h
  cases hdigit

theorem portText_eq_or (e : Endpoint)
    : e.portText.toList = [] ∨ e.portText.toList = ':' :: Nat.toDigits 10 e.port.toNat := by
  unfold portText
  split
  . exact Or.inl rfl
  . right
    rw [String.toList_append]
    exact congrArg (':' :: ·) Nat.toList_repr

variable {name domain basePath s t : String} {p q : UInt16}

theorem length_portText_eq_of_origin_eq (hs : ':' ∉ s.toList) (ht : ':' ∉ t.toList)
    (h : origin { name, suffix := s, domain, port := p, basePath }
      = origin { name, suffix := t, domain, port := q, basePath })
    : (portText { name, suffix := s, domain, port := p, basePath }).length
        =
      (portText { name, suffix := t, domain, port := q, basePath }).length := by
  have hlist := congrArg String.toList h
  simp only [origin, host, String.toList_append] at hlist
  -- Either both ports are named or none is, since all other colons are the same.
  have hcount := congrArg (List.count ':') hlist
  simp only [List.count_append, List.count_eq_zero.2 hs, List.count_eq_zero.2 ht] at hcount
  rw [← String.length_toList, ← String.length_toList]
  rcases portText_eq_or { name, suffix := s, domain, port := p, basePath } with hp | hp
  . rcases portText_eq_or { name, suffix := t, domain, port := q, basePath } with hq | hq
    . rw [hp, hq]
    . rw [hp, hq, List.count_cons_self, List.count_nil] at hcount
      omega
  . rcases portText_eq_or { name, suffix := t, domain, port := q, basePath } with hq | hq
    . rw [hp, hq, List.count_cons_self, List.count_nil] at hcount
      omega
    . rw [hp, hq] at hlist ⊢
      rw [Text.eq_of_append_cons_eq (colon_not_mem_toDigits _) (colon_not_mem_toDigits _) hlist]

theorem enumerates_candidates {suffixes : List String} (h : ∀ suffix ∈ suffixes, ':' ∉ suffix.toList)
    (name domain basePath : String) (ports : List UInt16)
    : let endpoints := candidates name domain suffixes ports basePath
      endpoints.length = suffixes.length * ports.length
        ∧ (∀ i j suffix port, suffixes[i]? = some suffix → ports[j]? = some port →
            endpoints[i * ports.length + j]? = some { name, suffix, domain, port, basePath, scheme := .https })
        ∧ ∀ e ∈ endpoints, ∀ e' ∈ endpoints, e.baseUrl = e'.baseUrl → e.suffix = e'.suffix ∧ e.port = e'.port := by
  intro endpoints
  refine ⟨length_candidates .., ?_, ?_⟩
  . intro i j suffix port hi hj
    exact getElem?_candidates name domain basePath hi hj
  . intro e he e' he' hurl
    obtain ⟨s, hs, p, _, rfl⟩ := mem_candidates.1 he
    obtain ⟨t, ht, q, _, rfl⟩ := mem_candidates.1 he'
    have horigin := (String.append_left_inj basePath).1 hurl
    apply candidate_injective horigin
    exact length_portText_eq_of_origin_eq (h s hs) (h t ht) horigin

-- The domain looks like a port, and three of the URLs name none themselves.
theorem enumerates_candidates_ported
    : let endpoints := candidates "acme" ":443" ["-api", "", ".eu"] [443, 8444, 8445] "/agent"
      (∀ suffix ∈ ["-api", "", ".eu"], ':' ∉ suffix.toList)
        ∧ endpoints.length = 9
        ∧ endpoints[1 * 3 + 2]? = some { name := "acme", suffix := "", domain := ":443", port := 8445, basePath := "/agent" }
        ∧ ∀ e ∈ endpoints, ∀ e' ∈ endpoints, e.baseUrl = e'.baseUrl → e.suffix = e'.suffix ∧ e.port = e'.port := by
  have hcolon : ∀ suffix ∈ ["-api", "", ".eu"], ':' ∉ suffix.toList := by
    decide
  obtain ⟨hlength, hindex, hinjective⟩ := enumerates_candidates hcolon "acme" ":443" "/agent" [443, 8444, 8445]
  exact ⟨hcolon, hlength, hindex 1 2 "" 8445 rfl rfl, hinjective⟩

end PodProbe.Endpoint
