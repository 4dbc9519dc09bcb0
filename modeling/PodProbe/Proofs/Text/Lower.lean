import PodProbe.Text.Ascii
import PodProbe.Text.Blank

/-!
This module contains that neither blanks nor separators are letters, so that texts can be cut and trimmed before or
after their letters are made lower case.
-/

namespace PodProbe.Text

/-- A character is only changed if it is a capital letter of ASCII, which then becomes the small one. -/
theorem toLower_eq_or (c : Char)
    : c.toLower = c ∨ 65 ≤ c.toNat ∧ c.toNat ≤ 90 ∧ c.toLower.toNat = c.toNat + 32 := by
  unfold Char.toLower
  split
  . next h =>
    right
    have hge : 65 ≤ c.toNat := h.1
    have hle : c.toNat ≤ 90 := h.2
    refine ⟨hge, hle, ?_⟩
    change (c.val + 32).toNat = c.toNat + 32
    rw [UInt32.toNat_add]
    change (c.toNat + 32) % 2 ^ 32 = c.toNat + 32
    omega
  . exact Or.inl rfl

theorem isBlank_toLower (c : Char) : isBlank c.toLower = isBlank c := by
  cases toLower_eq_or c with
  | inl h => rw [h]
  | inr h =>
    obtain ⟨hge, hle, hnat⟩ := h
    unfold isBlank
    rw [hnat, Bool.eq_iff_iff]
    simp
    omega

theorem toLower_ne_semicolon (c : Char) : (c.toLower != ';') = (c != ';') := by
  cases toLower_eq_or c with
  | inl h => rw [h]
  | inr h =>
    obtain ⟨hge, hle, hnat⟩ := h
    have hlower : c.toLower ≠ ';' := by
      intro heq
      rw [heq] at hnat
      change 59 = c.toNat + 32 at hnat
      omega
    have hcapital : c ≠ ';' := by
      intro heq
      rw [heq] at hge
      exact absurd hge (by decide)
    rw [bne_iff_ne.2 hlower, bne_iff_ne.2 hcapital]

theorem lower_takeWhile {keeps : Char → Bool} (h : ∀ c, keeps c.toLower = keeps c) (cs : List Char)
    : lower (cs.takeWhile keeps) = (lower cs).takeWhile keeps := by
  have hkeeps : keeps ∘ Char.toLower = keeps := funext h
  unfold lower
  rw [List.takeWhile_map, hkeeps]

theorem lower_trim (cs : List Char) : lower (trim cs) = trim (lower cs) := by
  have hblank : isBlank ∘ Char.toLower = isBlank := funext isBlank_toLower
  unfold trim trimRight lower
  rw [List.dropWhile_map, hblank, ← List.map_reverse, List.dropWhile_map, hblank, List.map_reverse]

end PodProbe.Text
