import PodProbe.Probe

/-!
This module contains the tokens that a run obtains, how they are attached to requests, and the store that they are
handed over to.
-/

namespace PodProbe

inductive TokenKind where
  | session
  | keyManager
deriving DecidableEq, Repr

namespace TokenKind

/-- The header that carries the token, which is also its name in a store. -/
def headerName : TokenKind → String
  | session => "sessionToken"
  | keyManager => "keyManagerToken"

def cookieName : TokenKind → String
  | session => "skey"
  | keyManager => "kmsession"

end TokenKind

structure Tokens where
  session : Option String := none
  keyManager : Option String := none
deriving DecidableEq, Repr

namespace Tokens

def get? (t : Tokens) : TokenKind → Option String
  | .session => t.session
  | .keyManager => t.keyManager

def insert (t : Tokens) (kind : TokenKind) (value : String) : Tokens :=
  match kind with
  | .session => { t with session := some value }
  | .keyManager => { t with keyManager := some value }

def toList (t : Tokens) : List (TokenKind × String) :=
  (t.session.map (TokenKind.session, ·)).toList ++ (t.keyManager.map (TokenKind.keyManager, ·)).toList

def isEmpty (t : Tokens) : Bool :=
  t.toList.isEmpty

def asCookies (t : Tokens) (p : Probe) : Probe :=
  t.toList.foldl (fun p (kind, value) => p.cookie kind.cookieName value) p

def asHeaders (t : Tokens) (p : Probe) : Probe :=
  t.toList.foldl (fun p (kind, value) => p.header kind.headerName value) p

end Tokens

structure StoredToken where
  host : String
  name : String
  value : String
deriving DecidableEq, Repr

abbrev TokenStore := List StoredToken

namespace TokenStore

def get? (s : TokenStore) (host name : String) : Option String :=
  (s.find? fun e => e.host == host && e.name == name).map StoredToken.value

def put (host name value : String) : TokenStore → TokenStore
  | [] => [⟨host, name, value⟩]
  | e :: es =>
    if host = e.host ∧ name = e.name then ⟨host, name, value⟩ :: es
    else if host < e.host ∨ (host = e.host ∧ name < e.name) then ⟨host, name, value⟩ :: e :: es
    else e :: put host name value es

theorem get?_cons (e : StoredToken) (es : TokenStore) (host name : String) :
    get? (e :: es) host name = if host = e.host ∧ name = e.name then some e.value else get? es host name := by
  unfold get?
  rw [List.find?_cons]
  by_cases h : host = e.host ∧ name = e.name
  · rw [if_pos h, h.1, h.2, beq_self_eq_true, beq_self_eq_true]
    rfl
  · have hne : (e.host == host && e.name == name) = false := by grind
    rw [if_neg h, hne]

-- The store need not be in order for this: what `put` passes by has another host or name.
theorem get?_put (host name value : String) (s : TokenStore) (h n : String) :
    get? (put host name value s) h n = if h = host ∧ n = name then some value else get? s h n := by
  induction s with
  | nil => apply get?_cons
  | cons e es ih =>
    unfold put
    split
    · next hsame =>
      rw [get?_cons, get?_cons, ← hsame.1, ← hsame.2]
      split <;> rfl
    · next hother =>
      split
      · apply get?_cons
      · rw [get?_cons, get?_cons, ih]
        grind

end TokenStore

end PodProbe
