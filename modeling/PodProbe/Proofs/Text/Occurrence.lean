import Mathlib.Data.List.Infix
import PodProbe.Text.Ascii

/-!
This module contains where a text can occur in one that is put together of parts: not across a character that it does
not hold.
-/

namespace PodProbe.Text

theorem occursIn_iff {part cs : List Char} : occursIn part cs ↔ part <:+: cs := by
  induction cs with
  | nil => rw [occursIn, List.isEmpty_iff, List.infix_nil]
  | cons c cs ih => rw [occursIn, Bool.or_eq_true, ih, List.isPrefixOf_iff_prefix, List.infix_cons_iff]

theorem infix_append_cons_iff {part : List Char} {c : Char} (h : c ∉ part) (before after : List Char)
    : part <:+: before ++ c :: after ↔ part <:+: before ∨ part <:+: after := by
  constructor
  . intro hpart
    rcases List.infix_append_iff.1 hpart with hbefore | hafter | ⟨left, right, rfl, hleft, hright⟩
    . exact Or.inl hbefore
    . rcases List.infix_cons_iff.1 hafter with hprefix | hinfix
      . rcases List.prefix_cons_iff.1 hprefix with rfl | ⟨rest, rfl, _⟩
        . exact Or.inl List.nil_infix
        . exact absurd List.mem_cons_self h
      . exact Or.inr hinfix
    . rcases List.prefix_cons_iff.1 hright with rfl | ⟨rest, rfl, _⟩
      . rw [List.append_nil]
        exact Or.inl hleft.isInfix
      . exact absurd (List.mem_append_right left List.mem_cons_self) h
  . rintro (hpart | hpart)
    . exact hpart.trans (List.prefix_append before _).isInfix
    . exact hpart.trans ((List.suffix_cons c after).trans (List.suffix_append before _)).isInfix

theorem eq_of_append_cons_eq {c : Char} {before before' after after' : List Char} (h : c ∉ after) (h' : c ∉ after')
    (heq : before ++ c :: after = before' ++ c :: after')
    : after = after' := by
  rcases List.append_eq_append_iff.1 heq with ⟨shift, _, hshift⟩ | ⟨shift, _, hshift⟩
  . cases shift with
    | nil => exact (List.cons.inj hshift).2
    | cons d shift =>
      rw [(List.cons.inj hshift).2] at h
      exact absurd (List.mem_append_right shift List.mem_cons_self) h
  . cases shift with
    | nil => exact (List.cons.inj hshift).2.symm
    | cons d shift =>
      rw [(List.cons.inj hshift).2] at h'
      exact absurd (List.mem_append_right shift List.mem_cons_self) h'

/-! ### Separators whose first character occurs in them only once -/

variable {c : Char} {rest : List Char}

theorem eq_nil_or_prefix_of_shifted (hc : c ∉ rest) {shift a b : List Char}
    (h : c :: rest ++ a = shift ++ (c :: rest ++ b))
    : shift = [] ∨ c :: rest <+: shift := by
  have hshift : shift <+: c :: rest ++ a := ⟨c :: rest ++ b, h.symm⟩
  rcases List.prefix_or_prefix_of_prefix (List.prefix_append (c :: rest) a) hshift with hlong | hshort
  . exact Or.inr hlong
  . obtain ⟨overlap, hoverlap⟩ := hshort
    cases shift with
    | nil => exact Or.inl rfl
    | cons d shift =>
      rw [List.cons_append] at hoverlap
      obtain ⟨rfl, rfl⟩ := List.cons.inj hoverlap
      cases overlap with
      | nil =>
        rw [List.append_nil]
        exact Or.inr List.prefix_rfl
      | cons d' overlap =>
        -- What the separator overlaps itself by would start with its first character once more.
        rw [List.cons_append, List.cons_append, List.append_assoc] at h
        obtain ⟨rfl, _⟩ := List.cons.inj (List.append_cancel_left (List.cons.inj h).2)
        exact absurd (List.mem_append_right shift List.mem_cons_self) hc

theorem append_separator_inj (hc : c ∉ rest) {s t a b : List Char} (hs : ¬ c :: rest <:+: s) (ht : ¬ c :: rest <:+: t)
    (h : s ++ (c :: rest ++ a) = t ++ (c :: rest ++ b))
    : s = t ∧ a = b := by
  have hoccurs {u shift : List Char} (hstarts : c :: rest <+: shift) : c :: rest <:+: u ++ shift :=
    hstarts.isInfix.trans (List.suffix_append u shift).isInfix
  rcases List.append_eq_append_iff.1 h with ⟨shift, rfl, hshift⟩ | ⟨shift, rfl, hshift⟩
  . rcases eq_nil_or_prefix_of_shifted hc hshift with rfl | hstarts
    . exact ⟨(List.append_nil s).symm, List.append_cancel_left hshift⟩
    . exact absurd (hoccurs hstarts) ht
  . rcases eq_nil_or_prefix_of_shifted hc hshift with rfl | hstarts
    . exact ⟨List.append_nil t, (List.append_cancel_left hshift).symm⟩
    . exact absurd (hoccurs hstarts) hs

theorem append_comm_iff (hc : c ∉ rest) {cs : List Char}
    : c :: rest ++ cs = cs ++ c :: rest ↔ ∃ k, cs = (List.replicate k (c :: rest)).flatten := by
  constructor
  . intro h
    induction hlength : cs.length using Nat.strongRecOn generalizing cs with
    | ind n ih =>
      have hshift : c :: rest ++ cs = cs ++ (c :: rest ++ []) := by
        rw [List.append_nil]
        exact h
      rcases eq_nil_or_prefix_of_shifted hc hshift with rfl | ⟨cs, rfl⟩
      . exact ⟨0, rfl⟩
      . rw [List.append_assoc] at h
        have hshorter : cs.length < n := by
          rw [← hlength, List.length_append, List.length_cons]
          omega
        rcases ih cs.length hshorter (List.append_cancel_left h) rfl with ⟨k, hk⟩
        refine ⟨k + 1, ?_⟩
        rw [List.replicate_succ, List.flatten_cons, ← hk]
  . rintro ⟨k, rfl⟩
    induction k with
    | zero => simp
    | succ k ih =>
      rw [List.replicate_succ, List.flatten_cons, List.append_assoc, ← ih]

end PodProbe.Text
