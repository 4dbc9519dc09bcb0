import Mathlib.Tactic.SplitIfs
import PodProbe.Proofs.Bytes.Text

/-!
This module contains that the order of texts is the order of their bytes in UTF-8.
-/

namespace PodProbe.Bytes

section

variable {m n : Nat} {as bs : Bytes}

theorem cons_lt_cons_of_lt (hn : n < 256) (h : m < n) : UInt8.ofNat m :: as < UInt8.ofNat n :: bs := by
  rw [List.cons_lt_cons_iff, UInt8.lt_iff_toNat_lt, toNat_ofNat_of_lt (by omega), toNat_ofNat_of_lt hn]
  exact Or.inl h

theorem lead_lt (base offset : Nat) (hfits : n / base + offset < 256) (h : m < n)
    (htail : m % base < n % base → as < bs)
    : UInt8.ofNat (m / base + offset) :: as < UInt8.ofNat (n / base + offset) :: bs := by
  cases Nat.lt_or_eq_of_le (Nat.div_le_div_right (Nat.le_of_lt h)) with
  | inl hlt => exact cons_lt_cons_of_lt hfits (Nat.add_lt_add_right hlt offset)
  | inr heq =>
    rw [heq, List.cons_lt_cons_iff]
    refine Or.inr ⟨rfl, htail ?_⟩
    rw [← Nat.div_add_mod m base, ← Nat.div_add_mod n base, heq] at h
    exact Nat.add_lt_add_iff_left.1 h

theorem continuation_lt (base : Nat) (h : m % (base * 64) < n % (base * 64)) (htail : m % base < n % base → as < bs)
    : UInt8.ofNat (m / base % 64 + 128) :: as < UInt8.ofNat (n / base % 64 + 128) :: bs := by
  rw [← Nat.mod_mul_right_div_self, ← Nat.mod_mul_right_div_self n]
  apply lead_lt
  . rw [Nat.mod_mul_right_div_self]
    omega
  . exact h
  . rw [Nat.mod_mul_right_mod, Nat.mod_mul_right_mod]
    exact htail

theorem last_lt (h : m % 64 < n % 64) : UInt8.ofNat (m % 64 + 128) :: as < UInt8.ofNat (n % 64 + 128) :: bs :=
  cons_lt_cons_of_lt (by omega) (by omega)

end

theorem encode_append_lt {c d : Char} (h : c < d) (as bs : Bytes)
    : String.utf8EncodeChar c ++ as < String.utf8EncodeChar d ++ bs := by
  have hlt : c.val.toNat < d.val.toNat := h
  have hc : c.val.toNat < 0x110000 := toNat_lt c
  have hd : d.val.toNat < 0x110000 := toNat_lt d
  unfold String.utf8EncodeChar
  generalize c.val.toNat = m at *
  generalize d.val.toNat = n at *
  dsimp only
  split_ifs
  -- Encodings of different lengths differ in the first byte already; no lesser character has the longer one.
  case pos => exact cons_lt_cons_of_lt (by omega) hlt
  all_goals first | exact cons_lt_cons_of_lt (by omega) (by omega) | omega | skip
  . rw [Nat.mod_eq_of_lt (by omega : m / 64 < 32), Nat.mod_eq_of_lt (by omega : n / 64 < 32)]
    exact lead_lt 64 192 (by omega) hlt last_lt
  . rw [Nat.mod_eq_of_lt (by omega : m / 4096 < 16), Nat.mod_eq_of_lt (by omega : n / 4096 < 16)]
    exact lead_lt 4096 224 (by omega) hlt fun h => continuation_lt 64 h last_lt
  . rw [Nat.mod_eq_of_lt (by omega : m / 262144 < 8), Nat.mod_eq_of_lt (by omega : n / 262144 < 8)]
    exact lead_lt 262144 240 (by omega) hlt fun h => continuation_lt 4096 h fun h => continuation_lt 64 h last_lt

theorem ofChars_lt {cs ds : List Char} (h : cs < ds) : ofChars cs < ofChars ds := by
  induction h with
  | @nil d ds =>
    obtain ⟨b, bs, hbs⟩ := List.exists_cons_of_ne_nil (String.utf8EncodeChar_ne_nil (c := d))
    unfold ofChars
    rw [List.flatMap_cons, hbs]
    exact List.nil_lt_cons _ _
  | rel h => exact encode_append_lt h _ _
  | cons _ ih => exact List.append_left_lt ih

theorem ofString_lt {s t : String} (h : s < t) : ofString s < ofString t :=
  ofChars_lt h

end PodProbe.Bytes
