import PodProbe.Token

/-!
This module contains what the attachment of tokens does to a probe: it adds cookies or headers to the request, and
leaves the rest as it is.
-/

namespace PodProbe

def Probe.call (p : Probe) : Method × String :=
  (p.request.method, p.url)

namespace Tokens

def cookies (t : Tokens) : List (String × String) :=
  t.toList.map fun (kind, value) => (kind.cookieName, value)

def headers (t : Tokens) : List (String × String) :=
  t.toList.map fun (kind, value) => (kind.headerName, value)

theorem eq_of_get {t u : Tokens} (hsession : t.session = u.session) (hkey : t.keyManager = u.keyManager)
    : t = u := by
  rcases t with ⟨session, keyManager⟩
  subst hsession
  subst hkey
  rfl

variable (t : Tokens) (p : Probe)

theorem asCookies_eq : t.asCookies p = { p with request.cookies := p.request.cookies ++ t.cookies } := by
  rcases t with ⟨session, keyManager⟩
  cases session <;> cases keyManager <;> simp [asCookies, cookies, toList, Probe.cookie]

theorem asHeaders_eq : t.asHeaders p = { p with request.headers := p.request.headers ++ t.headers } := by
  rcases t with ⟨session, keyManager⟩
  cases session <;> cases keyManager <;> simp [asHeaders, headers, toList, Probe.header]

@[simp]
theorem endpoint_asCookies : (t.asCookies p).endpoint = p.endpoint := by
  rw [asCookies_eq]

@[simp]
theorem endpoint_asHeaders : (t.asHeaders p).endpoint = p.endpoint := by
  rw [asHeaders_eq]

@[simp]
theorem call_asCookies : (t.asCookies p).call = p.call := by
  rw [asCookies_eq]
  rfl

@[simp]
theorem call_asHeaders : (t.asHeaders p).call = p.call := by
  rw [asHeaders_eq]
  rfl

end Tokens

end PodProbe
