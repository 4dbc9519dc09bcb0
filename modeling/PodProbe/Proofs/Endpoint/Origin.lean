import Std.Data.String.ToNat
import PodProbe.Endpoint

/-!
This module contains the origins of endpoints, the part of a URL before any path. Nothing is escaped in them, so that
a host name may well contain what looks like a scheme or a port; still the endpoints that differ only in scheme, port
or suffix have different origins.
-/

namespace PodProbe.Endpoint

def origin (e : Endpoint) : String :=
  e.scheme.text ++ "://" ++ e.host ++ e.portText

theorem baseUrl_eq (e : Endpoint) : e.baseUrl = e.origin ++ e.basePath := rfl

theorem baseUrl_below (e : Endpoint) (h : e.basePath = "") (basePath : String)
    : { e with basePath }.baseUrl = e.baseUrl ++ basePath := by
  simp [baseUrl, host, portText, h]

theorem append_inj_of_length {a b c d : String} (h : a ++ b = c ++ d) (hlen : b.length = d.length)
    : a = c ∧ b = d := by
  have hlist := congrArg String.toList h
  rw [String.toList_append, String.toList_append] at hlist
  obtain ⟨hac, hbd⟩ := List.append_inj' hlist hlen
  exact ⟨String.toList_injective hac, String.toList_injective hbd⟩

theorem portText_ne_empty {e : Endpoint} (h : e.port ≠ e.scheme.defaultPort) : e.portText ≠ "" := by
  unfold portText
  rw [if_neg h]
  intro hempty
  have := congrArg String.length hempty
  rw [String.length_append] at this
  simp at this

theorem portText_injective (e : Endpoint) {p q : UInt16}
    (h : { e with port := p }.portText = { e with port := q }.portText)
    : p = q := by
  by_cases hp : p = e.scheme.defaultPort
  . by_cases hq : q = e.scheme.defaultPort
    . rw [hp, hq]
    . have hempty : { e with port := p }.portText = "" := if_pos hp
      exact absurd (h.symm.trans hempty) (portText_ne_empty hq)
  . by_cases hq : q = e.scheme.defaultPort
    . have hempty : { e with port := q }.portText = "" := if_pos hq
      exact absurd (h.trans hempty) (portText_ne_empty hp)
    . unfold portText at h
      rw [if_neg hp, if_neg hq] at h
      have hrepr : Nat.repr p.toNat = Nat.repr q.toNat := (String.append_right_inj _).1 h
      exact UInt16.toNat_inj.1 (Nat.repr_injective hrepr)

theorem port_injective (e : Endpoint) {p q : UInt16}
    (h : { e with port := p }.origin = { e with port := q }.origin)
    : p = q := by
  apply e.portText_injective
  exact ((String.append_right_inj _).1 h)

theorem origin_ne_plaintext (e : Endpoint) (he : e.scheme = .https) (p q : UInt16)
    : { e with port := p }.origin ≠ ({ e with port := q } : Endpoint).plaintext.origin := by
  intro h
  have hlist := congrArg String.toList h
  unfold origin plaintext at hlist
  simp [he, Scheme.text] at hlist

-- Nothing separates a suffix from a domain, so the lengths of the ports have to tell the suffixes apart.
theorem candidate_injective {name s t domain basePath : String} {p q : UInt16}
    (h : origin { name, suffix := s, domain, port := p, basePath }
      = origin { name, suffix := t, domain, port := q, basePath })
    (hlen : (portText { name, suffix := s, domain, port := p, basePath }).length
      = (portText { name, suffix := t, domain, port := q, basePath }).length)
    : s = t ∧ p = q := by
  obtain ⟨hhost, hport⟩ := append_inj_of_length h hlen
  have hsuffix := (String.append_left_inj domain).1 ((String.append_right_inj _).1 hhost)
  constructor
  . exact (String.append_right_inj name).1 hsuffix
  . exact portText_injective { name, suffix := s, domain, port := p, basePath } hport

end PodProbe.Endpoint
