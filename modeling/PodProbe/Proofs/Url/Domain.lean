import Mathlib.Data.List.InsertIdx
import PodProbe.Url.Domain

/-!
This module contains that no domain name holds what is denied in it once it has the form in which it is looked up: what
a name shows is checked before its labels are read, and neither reading nor encoding a label adds such a character.
-/

namespace PodProbe.Url

def Lacks (d : Char) (cs : List Char) : Prop :=
  d ∉ cs

instance (d : Char) (cs : List Char) : Decidable (Lacks d cs) :=
  inferInstanceAs (Decidable (d ∉ cs))

variable {d : Char}

section

variable {cs ds : List Char}

theorem lacks_nil : Lacks d [] := by
  exact List.not_mem_nil

theorem lacks_cons_iff {c : Char} : Lacks d (c :: cs) ↔ c ≠ d ∧ Lacks d cs := by
  unfold Lacks
  rw [List.mem_cons, not_or, ne_comm]

theorem lacks_append_iff : Lacks d (cs ++ ds) ↔ Lacks d cs ∧ Lacks d ds := by
  unfold Lacks
  rw [List.mem_append, not_or]

theorem Lacks.subset (h : Lacks d cs) (hsubset : ds ⊆ cs) : Lacks d ds :=
  fun hmem => h (hsubset hmem)

theorem lacks_flatten {parts : List (List Char)} (h : ∀ part ∈ parts, Lacks d part)
    : Lacks d parts.flatten := by
  unfold Lacks
  rw [List.mem_flatten]
  rintro ⟨part, hpart, hmem⟩
  exact h part hpart hmem

theorem lacks_intercalate {separator : List Char} {parts : List (List Char)} (hseparator : Lacks d separator)
    (h : ∀ part ∈ parts, Lacks d part)
    : Lacks d (separator.intercalate parts) := by
  induction parts with
  | nil => exact lacks_nil
  | cons part parts ih =>
    rw [List.forall_mem_cons] at h
    cases parts with
    | nil =>
      rw [List.intercalate_singleton]
      exact h.1
    | cons part' parts =>
      rw [List.intercalate_cons_cons, lacks_append_iff, lacks_append_iff]
      exact ⟨⟨h.1, hseparator⟩, ih h.2⟩

theorem subset_intercalate (separator : List Char) {part : List Char} {parts : List (List Char)} (h : part ∈ parts)
    : part ⊆ separator.intercalate parts := by
  induction parts with
  | nil => cases h
  | cons part' parts ih =>
    cases parts with
    | nil =>
      rw [List.mem_singleton.1 h, List.intercalate_singleton]
      exact List.Subset.refl _
    | cons part'' parts =>
      rw [List.intercalate_cons_cons, List.append_assoc]
      cases h with
      | head => exact List.subset_append_left _ _
      | tail _ h =>
        exact fun c hc => List.mem_append_right _ (List.mem_append_right _ (ih h hc))

theorem subset_of_mem_splitOn {separator : Char} {part : List Char} (h : part ∈ cs.splitOn separator) : part ⊆ cs := by
  have hsubset := subset_intercalate [separator] h
  rw [List.intercalate_splitOn] at hsubset
  exact hsubset

end

/-! ### Labels -/

variable (hd : deniedInDomain d)
include hd

theorem toNat_lt_of_denied : d.toNat < 0x80 := by
  unfold deniedInDomain isControl at hd
  simp only [Bool.or_eq_true, decide_eq_true_eq, beq_iff_eq, List.contains_iff_mem, List.mem_cons,
    List.not_mem_nil, or_false] at hd
  rcases hd with (hlow | hdelete) | rfl | rfl | rfl | rfl | rfl | rfl | rfl | rfl | rfl | rfl | rfl | rfl | rfl | rfl
  . omega
  . omega
  all_goals decide

theorem ne_of_denied {c : Char} (hc : deniedInDomain c = false) : c ≠ d := by
  rintro rfl
  rw [hd] at hc
  cases hc

theorem lacks_of_any_denied {cs : List Char} (h : cs.any deniedInDomain = false) : Lacks d cs := by
  rw [List.any_eq_false] at h
  intro hmem
  exact h d hmem hd

theorem ofNat_ne_of_denied {n : Nat} (hvalid : n.isValidChar) (hn : 0x80 ≤ n)
    : Char.ofNat n ≠ d := by
  rintro rfl
  have hchar : Char.ofNat n = Char.ofNatAux n hvalid := dif_pos hvalid
  have hnat : (Char.ofNat n).toNat = n := by
    rw [hchar]
    rfl
  have hlt := toNat_lt_of_denied hd
  omega

namespace Punycode

theorem digitChar_ne_of_denied {n : Nat} (hn : n < 36) : digitChar n ≠ d := by
  have hdigits : ∀ n < 36, deniedInDomain (digitChar n) = false := by decide
  exact ne_of_denied hd (hdigits n hn)

omit hd in
theorem threshold_le (bias position : Nat) : threshold bias position ≤ 26 := by
  unfold threshold
  split
  . omega
  . split <;> omega

theorem lacks_writeNumber (bias position n : Nat) : Lacks d (writeNumber bias position n) := by
  fun_induction writeNumber bias position n with
  | case1 position n t h =>
    have ht : t ≤ 26 := threshold_le bias position
    exact lacks_cons_iff.2 ⟨digitChar_ne_of_denied hd (by omega), lacks_nil⟩
  | case2 position n t h ih =>
    have ht : t ≤ 26 := threshold_le bias position
    have hmod : (n - t) % (36 - t) < 36 - t := Nat.mod_lt _ (by omega)
    exact lacks_cons_iff.2 ⟨digitChar_ne_of_denied hd (by omega), ih⟩

theorem lacks_writeChar {known code : Nat} {p : Progress} (h : Lacks d p.written) (c : Char)
    : Lacks d (writeChar known code p c).written := by
  unfold writeChar
  split
  . exact h
  . split
    . exact lacks_append_iff.2 ⟨h, lacks_writeNumber hd _ _ _⟩
    . exact h

theorem lacks_writeInsertions (cs : List Char) (known : Nat) (codes : List Nat) (code : Nat) {p : Progress}
    (h : Lacks d p.written)
    : Lacks d (writeInsertions cs known codes code p).written := by
  have hfold (n : Nat) (ds : List Char) {p : Progress} (h : Lacks d p.written)
      : Lacks d (ds.foldl (writeChar known n) p).written := by
    induction ds generalizing p with
    | nil => exact h
    | cons c ds ih => exact ih (lacks_writeChar hd h c)
  induction codes generalizing code p with
  | nil => exact h
  | cons n codes ih => exact ih (n + 1) (hfold n cs h)

theorem lacks_encode {cs : List Char} (h : Lacks d cs) : Lacks d (encode cs) := by
  unfold encode
  rw [lacks_append_iff, lacks_append_iff]
  refine ⟨⟨h.subset List.filter_sublist.subset, ?_⟩, lacks_writeInsertions hd _ _ _ _ lacks_nil⟩
  split
  . exact lacks_nil
  . exact lacks_cons_iff.2 ⟨ne_of_denied hd (by decide), lacks_nil⟩

theorem lacks_readInsertions {code i bias : Nat} {known cs label : List Char} (hcode : 0x80 ≤ code)
    (hknown : Lacks d known) (h : readInsertions code i bias known cs = some label)
    : Lacks d label := by
  fun_induction readInsertions code i bias known cs with
  | case1 code i bias known =>
    cases h
    exact hknown
  | case2 => cases h
  | case3 code i bias known c cs' j rest hread count code' place hvalid ih =>
    have hcode' : 0x80 ≤ code' := Nat.le_trans hcode (Nat.le_add_right _ _)
    apply ih hcode' _ h
    intro hmem
    cases List.eq_or_mem_of_mem_insertIdx hmem with
    | inl heq => exact ofNat_ne_of_denied hd hvalid hcode' heq.symm
    | inr hmem => exact hknown hmem
  | case4 => cases h

theorem lacks_decode? {cs label : List Char} (hcs : Lacks d cs) (h : decode? cs = some label)
    : Lacks d label := by
  have hsplit : (splitLastHyphen cs).1 ⊆ cs := by
    unfold splitLastHyphen
    dsimp only
    split
    . exact List.nil_subset cs
    . exact List.take_subset _ cs
  unfold decode? at h
  dsimp only at h
  split at h
  . exact lacks_readInsertions hd (Nat.le_refl _) (hcs.subset hsplit) h
  . cases h

end Punycode

theorem lacks_decodeLabel? {cs label : List Char} (hcs : Lacks d cs) (h : decodeLabel? cs = some label)
    : Lacks d label := by
  unfold decodeLabel? at h
  split at h
  . cases h
  . rcases Option.bind_eq_some_iff.1 h with ⟨decoded, hdecoded, h⟩
    split at h
    . cases h
    . split at h
      . cases h
        exact Punycode.lacks_decode? hd hcs hdecoded
      . cases h

theorem lacks_readLabel? {cs label : List Char} (hcs : Lacks d cs) (h : readLabel? cs = some label)
    : Lacks d label := by
  unfold readLabel? at h
  split at h
  . exact lacks_decodeLabel? hd (hcs.subset (List.drop_subset _ cs)) h
  . split at h
    . cases h
      exact hcs
    . cases h

theorem lacks_writeLabel? {label cs : List Char} (hlabel : Lacks d label) (h : writeLabel? label = some cs)
    : Lacks d cs := by
  unfold writeLabel? at h
  split at h
  . cases h
    exact hlabel
  . split at h
    . cases h
    . cases h
      have hace : Lacks d acePrefix := lacks_of_any_denied hd rfl
      exact lacks_append_iff.2 ⟨hace, Punycode.lacks_encode hd hlabel⟩

theorem lacks_joinLabels {labels : List (List Char)} (h : ∀ label ∈ labels, Lacks d label)
    : Lacks d (joinLabels labels) := by
  fun_induction joinLabels labels with
  | case1 => exact lacks_nil
  | case2 label => exact h label List.mem_cons_self
  | case3 label labels hne ih =>
    rw [List.forall_mem_cons] at h
    exact lacks_append_iff.2 ⟨h.1, lacks_cons_iff.2 ⟨ne_of_denied hd (by decide), ih h.2⟩⟩

/-! ### Names -/

omit hd in
theorem exists_of_mem_mapM {α β : Type} {f : α → Option β} {xs : List α} {ys : List β} (h : xs.mapM f = some ys)
    : ∀ y ∈ ys, ∃ x ∈ xs, f x = some y := by
  induction xs generalizing ys with
  | nil =>
    cases h
    exact nofun
  | cons x xs ih =>
    rw [List.mapM_cons] at h
    rcases Option.bind_eq_some_iff.1 h with ⟨y, hy, h⟩
    rcases Option.bind_eq_some_iff.1 h with ⟨ys', hys, h⟩
    cases h
    rw [List.forall_mem_cons]
    refine ⟨⟨x, List.mem_cons_self, hy⟩, ?_⟩
    intro y' hy'
    rcases ih hys y' hy' with ⟨x', hx', heq⟩
    exact ⟨x', List.mem_cons_of_mem x hx', heq⟩

theorem lacks_domainToAscii? {cs ascii : List Char} (h : domainToAscii? cs = some ascii) : Lacks d ascii := by
  unfold domainToAscii? at h
  rcases Option.bind_eq_some_iff.1 h with ⟨mapped, _, h⟩
  dsimp only at h
  split at h
  . cases h
  . next hname =>
    have hlacks : Lacks d (Unicode.normalize mapped.flatten) := by
      intro hmem
      apply hname
      rw [List.any_eq_true]
      exact ⟨d, hmem, hd⟩
    rcases Option.bind_eq_some_iff.1 h with ⟨labels, hlabels, h⟩
    split at h
    . cases h
    . rcases Option.bind_eq_some_iff.1 h with ⟨written, hwritten, h⟩
      cases h
      apply lacks_joinLabels hd
      intro part hpart
      rcases exists_of_mem_mapM hwritten part hpart with ⟨label, hlabel, hwrite⟩
      rcases exists_of_mem_mapM hlabels label hlabel with ⟨text, htext, hread⟩
      exact lacks_writeLabel? hd (lacks_readLabel? hd (hlacks.subset (subset_of_mem_splitOn htext)) hread) hwrite

end PodProbe.Url
