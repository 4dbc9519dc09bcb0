import PodProbe.Proofs.Url.Domain
import PodProbe.Url.Reader

/-!
This module contains what the texts of hosts hold: none of the characters that are denied in domain names, except for
the brackets and colons of an address of 128 bits.
-/

namespace PodProbe.Url

variable {d : Char}

theorem lacks_toList_append_iff {a b : String} : Lacks d (a ++ b).toList ↔ Lacks d a.toList ∧ Lacks d b.toList := by
  rw [String.toList_append, lacks_append_iff]

/-! ### Numbers and addresses -/

section

variable (hd : deniedInDomain d)
include hd

theorem lacks_toDigits {base : Nat} (hbase : 1 < base) (hdigits : base ≤ 16) (n : Nat)
    : Lacks d (Nat.toDigits base n) := by
  have hdigit : ∀ n < 16, deniedInDomain n.digitChar = false := by decide
  induction n using Nat.strongRecOn with
  | ind n ih =>
    by_cases h : n < base
    . rw [Nat.toDigits_of_lt_base h]
      exact lacks_cons_iff.2 ⟨ne_of_denied hd (hdigit n (by omega)), lacks_nil⟩
    . have hle : base ≤ n := Nat.le_of_not_lt h
      have hdiv : n / base < n := Nat.div_lt_self (by omega) hbase
      have hmod : n % base < base := Nat.mod_lt n (by omega)
      rw [Nat.toDigits_of_base_le hbase hle, lacks_append_iff]
      exact ⟨ih _ hdiv, lacks_cons_iff.2 ⟨ne_of_denied hd (hdigit _ (by omega)), lacks_nil⟩⟩

theorem lacks_toString (n : Nat) : Lacks d (toString n).toList := by
  rw [Nat.toString_eq_repr, Nat.toList_repr]
  exact lacks_toDigits hd (by decide) (by decide) n

theorem lacks_writeAddress4 (n : Nat) : Lacks d (writeAddress4 n).toList := by
  unfold writeAddress4
  rw [String.toList_intercalate]
  apply lacks_intercalate (lacks_of_any_denied hd rfl)
  intro part hpart
  simp only [List.mem_map, List.map_map] at hpart
  rcases hpart with ⟨b, _, rfl⟩
  exact lacks_toString hd b.toNat

variable (hcolon : d ≠ ':')
include hcolon

theorem lacks_writePieces (pieces : List Nat) : Lacks d (writePieces pieces).toList := by
  unfold writePieces
  rw [String.toList_intercalate]
  apply lacks_intercalate (lacks_cons_iff.2 ⟨hcolon.symm, lacks_nil⟩)
  intro part hpart
  simp only [List.mem_map, List.map_map] at hpart
  rcases hpart with ⟨n, _, rfl⟩
  rw [Function.comp_apply, String.toList_ofList]
  exact lacks_toDigits hd (by decide) (by decide) n

theorem lacks_writeAddress6 (pieces : List Nat) : Lacks d (writeAddress6 pieces).toList := by
  unfold writeAddress6
  dsimp only
  split
  . exact lacks_writePieces hd hcolon pieces
  . have hgap : Lacks d "::".toList :=
      lacks_cons_iff.2 ⟨hcolon.symm, lacks_cons_iff.2 ⟨hcolon.symm, lacks_nil⟩⟩
    rw [lacks_toList_append_iff, lacks_toList_append_iff]
    exact ⟨⟨lacks_writePieces hd hcolon _, hgap⟩, lacks_writePieces hd hcolon _⟩

end

theorem writeAddress4_ne_nil (n : Nat) : (writeAddress4 n).toList ≠ [] := by
  unfold writeAddress4 Bytes.ofNat
  rw [String.toList_intercalate]
  simp [List.range_succ, List.intercalate_cons_cons]

/-! ### Hosts -/

namespace Host

inductive Shown : List Char → Prop where
  | name {cs : List Char} (hne : cs ≠ []) (h : ∀ d, deniedInDomain d → Lacks d cs) : Shown cs
  | bracketed {cs : List Char} (h : ∀ d, deniedInDomain d → d ≠ ':' → Lacks d cs) : Shown ('[' :: (cs ++ [']']))

theorem Shown.lacks {cs : List Char} (h : Shown cs) (hd : deniedInDomain d) (hsign : d ∉ [':', '[', ']'])
    : Lacks d cs := by
  simp only [List.mem_cons, List.not_mem_nil, or_false, not_or] at hsign
  cases h with
  | name _ h => exact h d hd
  | bracketed h =>
    rw [lacks_cons_iff, lacks_append_iff]
    exact ⟨Ne.symm hsign.2.1, h d hd hsign.1, lacks_cons_iff.2 ⟨Ne.symm hsign.2.2, lacks_nil⟩⟩

theorem shown_readBracketed {cs : List Char} {host : Host} (h : readBracketed cs = .ok host)
    : Shown host.text.toList := by
  have haddress (pieces : List Nat) : Shown (address6 pieces).text.toList := by
    have htext : (address6 pieces).text.toList = '[' :: ((writeAddress6 pieces).toList ++ [']']) := by
      simp [text]
    rw [htext]
    exact .bracketed fun d hd hcolon => lacks_writeAddress6 hd hcolon pieces
  unfold readBracketed at h
  split at h
  . split at h
    . cases h
      exact haddress _
    . cases h
  . cases h

theorem shown_read {cs : List Char} {host : Host} (h : read cs = .ok host) : Shown host.text.toList := by
  unfold read at h
  split at h
  . exact shown_readBracketed h
  . split at h
    . cases h
    . cases h
    . next ascii hne hascii =>
      split at h
      . split at h
        . cases h
          exact .name (writeAddress4_ne_nil _) fun d hd => lacks_writeAddress4 hd _
        . cases h
      . cases h
        rcases Option.bind_eq_some_iff.1 hascii with ⟨name, _, hname⟩
        unfold text
        rw [String.toList_ofList]
        exact .name hne fun d hd => lacks_domainToAscii? hd hname

/-- Whether a host, or none, is what some text stands for in the URLs of a kind. -/
def Stands (kind : SchemeKind) (host? : Option Host) : Prop :=
  ∃ cs, if kind = .special then ∃ host, host? = some host ∧ read cs = .ok host else readUnknown? cs = .ok host?

end Host

/-! ### Hosts in URLs -/

theorem exists_ok_of_bind {ε α β : Type} {x : Except ε α} {k : α → Except ε β} {b : β} (h : x >>= k = .ok b)
    : ∃ a, x = .ok a ∧ k a = .ok b := by
  cases x with
  | error e => cases h
  | ok a => exact ⟨a, rfl, h⟩

theorem stands_readHostPort {scheme : String} {kind : SchemeKind} {cs rest : List Char} {host? : Option Host}
    {port : Option UInt16} (h : readHostPort scheme kind cs = .ok (host?, port, rest))
    : Host.Stands kind host? := by
  unfold readHostPort at h
  dsimp only at h
  refine ⟨(splitHostPart false cs).1, ?_⟩
  split at h
  all_goals
    rename_i hkind
    rcases exists_ok_of_bind h with ⟨host', hhost, h⟩
    have heq : host' = host? := by
      split at h
      . cases h
        rfl
      . split at h
        . cases h
        . split at h
          . cases h
          . rcases exists_ok_of_bind h with ⟨_, _, h⟩
            cases h
            rfl
    subst heq
  . rw [if_pos hkind]
    split at hhost
    . cases hhost
    . cases hread : Host.read (splitHostPart false cs).1 with
      | error r =>
        rw [hread] at hhost
        cases hhost
      | ok host =>
        rw [hread] at hhost
        cases hhost
        exact ⟨host, rfl, rfl⟩
  . rw [if_neg hkind]
    exact hhost

theorem stands_readAuthority {scheme : String} {kind : SchemeKind} {last : Bool} {cs cut : List Char}
    {authority : Authority} (h : readAuthority scheme kind last cs = .ok (authority, cut))
    : Host.Stands kind authority.host := by
  unfold readAuthority at h
  split at h
  . rcases exists_ok_of_bind h with ⟨⟨host?, port, rest⟩, hread, h⟩
    cases h
    exact stands_readHostPort hread
  . dsimp only at h
    split at h
    . cases h
    . rcases exists_ok_of_bind h with ⟨⟨host?, port, rest⟩, hread, h⟩
      dsimp only at h
      split at h
      . cases h
      . cases h
        exact stands_readHostPort hread

theorem stands_readPlaced {scheme : String} {kind : SchemeKind} {cs : List Char} {u : Url}
    (h : readPlaced scheme kind cs = .ok u) : Host.Stands kind u.host? := by
  unfold readPlaced at h
  rcases exists_ok_of_bind h with ⟨⟨authority, cut⟩, hread, h⟩
  cases h
  exact stands_readAuthority hread

end PodProbe.Url
