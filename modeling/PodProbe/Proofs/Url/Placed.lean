import Mathlib.Data.List.Basic
import PodProbe.Proofs.Text.Trim
import PodProbe.Proofs.Url.Split

/-!
This module contains that hosts come back unchanged from the URLs that they are written into, whatever the port.
-/

namespace PodProbe.Url

/-! ### What does not count -/

def Visible (cs : List Char) : Prop :=
  ∀ c ∈ cs, 0x20 < c.toNat

theorem visible_iff {cs : List Char} : Visible cs ↔ cs.all (0x20 < ·.toNat) := by
  simp [Visible]

theorem visible_append_iff {cs ds : List Char} : Visible (cs ++ ds) ↔ Visible cs ∧ Visible ds :=
  List.forall_mem_append

theorem significant_append {cs : List Char} (hne : cs ≠ []) (h : Visible cs) (rest : List Char)
    : ∃ rest' ⊆ rest, significant (cs ++ rest) = cs ++ rest' := by
  have hfront : (cs ++ rest).dropWhile (fun c => c.toNat ≤ 0x20) = cs ++ rest := by
    apply Text.dropWhile_of_head
    intro c hc
    rw [List.head?_append_of_ne_nil _ hne] at hc
    simpa using h c (List.mem_of_mem_head? hc)
  have hback : cs.reverse.dropWhile (fun c => c.toNat ≤ 0x20) = cs.reverse := by
    apply Text.dropWhile_of_head
    intro c hc
    simpa using h c (List.mem_reverse.1 (List.mem_of_mem_head? hc))
  have hkeep : cs.filter (fun c => c != '\t' && c != '\n' && c != '\r') = cs := by
    rw [List.filter_eq_self]
    intro c hc
    have hne {d : Char} (hd : d.toNat ≤ 0x20) : (c != d) = true := by
      rw [bne_iff_ne]
      rintro rfl
      exact absurd (h c hc) (Nat.not_lt.2 hd)
    rw [hne (by decide), hne (by decide), hne (by decide)]
    rfl
  unfold significant
  dsimp only
  rw [hfront, List.reverse_append, List.dropWhile_append, hback]
  split
  . rw [List.reverse_reverse, hkeep]
    exact ⟨[], List.nil_subset _, (List.append_nil _).symm⟩
  . rw [List.reverse_append, List.reverse_reverse, List.filter_append, hkeep]
    refine ⟨_, ?_, rfl⟩
    intro c hc
    have hdropped := List.mem_reverse.1 ((List.mem_filter.1 hc).1)
    exact List.mem_reverse.1 ((List.dropWhile_sublist _).subset hdropped)

theorem significant_eq_self {cs : List Char} (hne : cs ≠ []) (h : Visible cs) : significant cs = cs := by
  rcases significant_append hne h [] with ⟨rest, hsubset, heq⟩
  rw [List.subset_nil.1 hsubset, List.append_nil] at heq
  exact heq

/-! ### Texts like hosts -/

/-- Whether a text holds nothing that is denied in hosts, the signs of addresses aside. -/
def HostLike (cs : List Char) : Prop :=
  ∀ d, deniedInDomain d → d ∉ [':', '[', ']'] → Lacks d cs

namespace HostLike

variable {cs ds : List Char}

theorem append (hcs : HostLike cs) (hds : HostLike ds) : HostLike (cs ++ ds) :=
  fun d hd hsign => lacks_append_iff.2 ⟨hcs d hd hsign, hds d hd hsign⟩

theorem ne_of_mem (h : HostLike cs) {c : Char} (hc : c ∈ cs) (d : Char) (hd : deniedInDomain d)
    (hsign : d ∉ [':', '[', ']'])
    : c ≠ d := by
  rintro rfl
  exact h c hd hsign hc

theorem visible (h : HostLike cs) : Visible cs := by
  intro c hc
  apply Nat.lt_of_not_le
  intro hle
  have hspace : c.toNat ≠ 0x20 := by
    intro heq
    exact h.ne_of_mem hc ' ' rfl (by decide) (Char.toNat_inj.1 heq)
  have hlt : c.toNat < 0x20 := by omega
  have hdenied : deniedInDomain c := by simp [deniedInDomain, isControl, hlt]
  have hsign : c ∉ [':', '[', ']'] := by
    intro hsign
    simp only [List.mem_cons, List.not_mem_nil, or_false] at hsign
    rcases hsign with rfl | rfl | rfl <;> exact absurd hlt (by decide)
  exact h c hdenied hsign hc

theorem not_slash (h : HostLike cs) : ∀ c ∈ cs, isSlash .special c = false := by
  intro c hc
  simp [isSlash, h.ne_of_mem hc '/' rfl (by decide), h.ne_of_mem hc '\\' rfl (by decide)]

theorem not_endsAuthority (h : HostLike cs) : ∀ c ∈ cs, !endsAuthority .special c := by
  intro c hc
  have hslash := h.not_slash c hc
  simp [endsAuthority, hslash, h.ne_of_mem hc '?' rfl (by decide), h.ne_of_mem hc '#' rfl (by decide)]

theorem splitUser?_eq_none (h : HostLike cs) : splitUser? cs = none := by
  have hspan : cs.reverse.span (· != '@') = (cs.reverse, []) := by
    apply span_eq_self
    intro c hc
    rw [bne_iff_ne]
    exact h.ne_of_mem (List.mem_reverse.1 hc) '@' rfl (by decide)
  unfold splitUser?
  rw [hspan]

end HostLike

theorem Host.Shown.hostLike {host : List Char} (h : Shown host) : HostLike host :=
  fun _ hd hsign => h.lacks hd hsign

theorem Host.Shown.ne_nil {host : List Char} (h : Shown host) : host ≠ [] := by
  cases h with
  | name hne _ => exact hne
  | bracketed _ => exact List.cons_ne_nil _ _

/-! ### Ports -/

def writePort : Option UInt16 → List Char
  | none => []
  | some port => ':' :: Nat.toDigits 10 port.toNat

theorem hostLike_writePort (port : Option UInt16) : HostLike (writePort port) := by
  intro d hd hsign
  cases port with
  | none => exact lacks_nil
  | some port =>
    refine lacks_cons_iff.2 ⟨?_, lacks_toDigits hd (by decide) (by decide) _⟩
    rintro rfl
    exact hsign (by decide)

theorem readDigits?_concat {cs : List Char} {c : Char} {n d : Nat} (hcs : readDigits? 10 cs = some n)
    (hc : Bytes.hexValue? c = some d) (hd : d < 10)
    : readDigits? 10 (cs ++ [c]) = some (10 * n + d) := by
  unfold readDigits? at hcs ⊢
  rw [List.foldl_append, hcs]
  simp [hc, hd]

theorem readDigits?_toDigits (n : Nat) : readDigits? 10 (Nat.toDigits 10 n) = some n := by
  have hvalue : ∀ n < 10, Bytes.hexValue? n.digitChar = some n := by decide
  induction n using Nat.strongRecOn with
  | ind n ih =>
    by_cases h : n < 10
    . rw [Nat.toDigits_of_lt_base h]
      have hdigit : readDigits? 10 ([] ++ [n.digitChar]) = some (10 * 0 + n) :=
        readDigits?_concat rfl (hvalue n h) h
      rw [Nat.mul_zero, Nat.zero_add] at hdigit
      exact hdigit
    . have hmod : n % 10 < 10 := Nat.mod_lt n (by decide)
      have hdiv : n / 10 < n := Nat.div_lt_self (by omega) (by decide)
      rw [Nat.toDigits_of_base_le (by decide) (Nat.le_of_not_lt h)]
      rw [readDigits?_concat (ih (n / 10) hdiv) (hvalue _ hmod) hmod, Nat.div_add_mod]

theorem exists_readPort_toDigits (scheme : String) (port : UInt16)
    : ∃ port?, readPort scheme (Nat.toDigits 10 port.toNat) = .ok port? := by
  unfold readPort
  rw [readDigits?_toDigits]
  dsimp only
  rw [if_neg (Nat.not_lt.2 (Nat.le_of_lt_succ port.toNat_lt))]
  split
  . exact ⟨_, rfl⟩
  . exact ⟨_, rfl⟩

/-! ### Hosts and ports -/

theorem splitHostPart_append {inside : Bool} {cs : List Char} (hopen : Lacks '[' cs) (hclose : Lacks ']' cs)
    (hcolon : inside ∨ Lacks ':' cs) (rest : List Char)
    : splitHostPart inside (cs ++ rest)
        =
      (cs ++ (splitHostPart inside rest).1, (splitHostPart inside rest).2) := by
  induction cs with
  | nil => rfl
  | cons c cs ih =>
    rw [lacks_cons_iff] at hopen hclose
    have hnot : ¬ (c = ':' ∧ !inside) := by
      rintro ⟨rfl, houtside⟩
      cases hcolon with
      | inl hinside => simp [hinside] at houtside
      | inr hlacks => exact (lacks_cons_iff.1 hlacks).1 rfl
    rw [List.cons_append, splitHostPart, if_neg hnot, if_neg hopen.1, if_neg hclose.1]
    rw [ih hopen.2 hclose.2 (hcolon.imp_right fun hlacks => (lacks_cons_iff.1 hlacks).2)]
    rfl

theorem splitHostPart_shown {host rest : List Char} (hhost : Host.Shown host) (hrest : ∀ c ∈ rest.head?, c = ':')
    : splitHostPart false (host ++ rest) = (host, rest) := by
  have hstop : splitHostPart false rest = ([], rest) := by
    cases rest with
    | nil => rfl
    | cons c rest =>
      rw [splitHostPart, if_pos ⟨hrest c rfl, rfl⟩]
  cases hhost with
  | name _ h =>
    rw [splitHostPart_append (h '[' rfl) (h ']' rfl) (Or.inr (h ':' rfl)), hstop, List.append_nil]
  | bracketed h =>
    rw [List.cons_append, List.append_assoc, splitHostPart, if_neg (by decide), if_pos rfl]
    rw [splitHostPart_append (h '[' rfl (by decide)) (h ']' rfl (by decide)) (Or.inl rfl)]
    rw [List.singleton_append, splitHostPart, if_neg (by decide), if_neg (by decide), if_pos rfl, hstop]

section

variable {host : List Char} (hhost : Host.Shown host) (port : Option UInt16)
include hhost

theorem readHostPort_shown
    : ∃ port?, readHostPort "https" .special (host ++ writePort port)
        =
      (Host.read host).map fun h => (some h, port?, []) := by
  have hne : host.isEmpty = false := by simpa using hhost.ne_nil
  have hrest : ∀ c ∈ (writePort port).head?, c = ':' := by
    cases port <;> simp [writePort]
  unfold readHostPort
  rw [splitHostPart_shown hhost hrest]
  dsimp only
  rw [if_pos rfl, hne]
  cases port with
  | none =>
    refine ⟨none, ?_⟩
    cases Host.read host <;> rfl
  | some port =>
    rcases exists_readPort_toDigits "https" port with ⟨port?, hport⟩
    have hdigits : (Nat.toDigits 10 port.toNat).span Char.isDigit = (Nat.toDigits 10 port.toNat, []) :=
      span_eq_self fun _ => Nat.isDigit_of_mem_toDigits (by decide) (by decide)
    refine ⟨port?, ?_⟩
    unfold writePort
    dsimp only
    rw [hdigits, hport]
    cases Host.read host <;> rfl

theorem readPlaced_shown {path : List Char} (hpath : path.head? = some '/')
    : (readPlaced "https" .special (host ++ writePort port ++ path)).toOption.bind host?
        =
      (Host.read host).toOption := by
  have hlike : HostLike (host ++ writePort port) := hhost.hostLike.append (hostLike_writePort port)
  have hspan : (host ++ writePort port ++ path).span (fun c => !endsAuthority .special c)
      = (host ++ writePort port, path) := by
    apply span_append hlike.not_endsAuthority
    intro c hc
    rw [hpath] at hc
    cases hc
    decide
  rcases readHostPort_shown hhost port with ⟨port?, hread⟩
  unfold readPlaced readAuthority
  rw [hspan]
  dsimp only
  rw [hlike.splitUser?_eq_none]
  dsimp only
  rw [hread]
  cases Host.read host <;> rfl

end

/-! ### Whole URLs -/

theorem read_of_significant {s : String} {cs : List Char} (h : significant s.toList = "https://".toList ++ cs)
    : read s = readPlaced "https" .special (cs.dropWhile (isSlash .special)) := by
  have hscheme : splitScheme? ("https://".toList ++ cs) = some ("https", '/' :: '/' :: cs) := by
    simp [splitScheme?, List.takeWhile, List.dropWhile]
  unfold read
  rw [h, hscheme]
  dsimp only
  rw [show kindOfScheme "https" = .special from rfl]
  dsimp only
  rw [List.dropWhile_cons_of_pos rfl, List.dropWhile_cons_of_pos rfl]

theorem shown_of_hostText? {s host : String} (h : hostText? ("https://" ++ s) = some host)
    : Host.Shown host.toList := by
  have hscheme : Visible "https://".toList := visible_iff.2 rfl
  rcases significant_append (by decide) hscheme s.toList with ⟨rest, _, hsignificant⟩
  rw [← String.toList_append] at hsignificant
  unfold hostText? at h
  rw [read_of_significant hsignificant] at h
  cases hread : readPlaced "https" .special (rest.dropWhile (isSlash .special)) with
  | error r =>
    rw [hread] at h
    cases h
  | ok u =>
    rw [hread] at h
    rcases stands_readPlaced hread with ⟨cs, hstands⟩
    rw [if_pos rfl] at hstands
    rcases hstands with ⟨host', hhost, hcs⟩
    have heq : host'.text = host := by
      simpa [Except.toOption, hhost] using h
    rw [← heq]
    exact Host.shown_read hcs

theorem hostText?_placed {host path : String} (hhost : Host.Shown host.toList)
    (hpath : path.toList.head? = some '/') (hvisible : Visible path.toList) (port : Option UInt16)
    : hostText? ("https://" ++ host ++ String.ofList (writePort port) ++ path)
        =
      (Host.read host.toList).toOption.map Host.text := by
  have hsignificant : significant ("https://" ++ host ++ String.ofList (writePort port) ++ path).toList
      = "https://".toList ++ (host.toList ++ writePort port ++ path.toList) := by
    rw [significant_eq_self]
    . simp
    . simp
    . simp only [String.toList_append, String.toList_ofList, visible_append_iff]
      exact ⟨⟨⟨visible_iff.2 rfl, hhost.hostLike.visible⟩, (hostLike_writePort port).visible⟩, hvisible⟩
  have hslashes : (host.toList ++ writePort port ++ path.toList).dropWhile (isSlash .special)
      = host.toList ++ writePort port ++ path.toList := by
    apply Text.dropWhile_of_head
    intro c hc
    rw [List.append_assoc, List.head?_append_of_ne_nil _ hhost.ne_nil] at hc
    exact hhost.hostLike.not_slash c (List.mem_of_mem_head? hc)
  unfold hostText?
  rw [read_of_significant hsignificant, hslashes, ← readPlaced_shown hhost port hpath]
  cases readPlaced "https" .special (host.toList ++ writePort port ++ path.toList) <;> rfl

/-- The host of a URL, where it is written as it is read, does not depend on the port. -/
theorem hostText?_ported {host path : String} (h : hostText? ("https://" ++ host ++ path) = some host)
    (hpath : path.toList.head? = some '/') (hvisible : Visible path.toList) (port : Option UInt16)
    : hostText? ("https://" ++ host ++ String.ofList (writePort port) ++ path) = some host := by
  rw [String.append_assoc] at h
  have hhost := shown_of_hostText? h
  rw [hostText?_placed hhost hpath hvisible port, ← hostText?_placed hhost hpath hvisible none]
  unfold writePort
  rw [String.ofList_nil, String.append_empty, String.append_assoc]
  exact h

end PodProbe.Url
