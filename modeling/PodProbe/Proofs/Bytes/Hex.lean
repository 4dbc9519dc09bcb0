import PodProbe.Certificate.Fingerprint

/-!
This module contains what the hexadecimal text of bytes is like: which characters it is made of, and how long it is.
-/

namespace PodProbe

namespace Bytes

def hexDigits : List Char :=
  ['0', '1', '2', '3', '4', '5', '6', '7', '8', '9', 'a', 'b', 'c', 'd', 'e', 'f']

theorem hexDigit_mem : ∀ n < 16, hexDigit n ∈ hexDigits := by
  decide

theorem mem_hexDigits_of_mem_toHex {bs : Bytes} {c : Char} (h : c ∈ (toHex bs).toList) : c ∈ hexDigits := by
  unfold toHex at h
  rw [String.toList_ofList, List.mem_flatMap] at h
  rcases h with ⟨b, _, hc⟩
  have hb : b.toNat < 256 := b.toNat_lt
  simp only [List.mem_cons, List.not_mem_nil, or_false] at hc
  rcases hc with rfl | rfl <;> exact hexDigit_mem _ (by omega)

theorem length_toList_toHex (bs : Bytes) : (toHex bs).toList.length = 2 * bs.length := by
  unfold toHex
  rw [String.toList_ofList]
  induction bs with
  | nil => rfl
  | cons b bs ih =>
    rw [List.flatMap_cons, List.length_append, ih, List.length_cons]
    simp only [List.length_cons, List.length_nil]
    omega

theorem utf8ByteSize_of_ascii {s : String} (h : ∀ c ∈ s.toList, c.utf8Size = 1) : s.utf8ByteSize = s.toList.length := by
  have hofList (cs : List Char) (hcs : ∀ c ∈ cs, c.utf8Size = 1) : (String.ofList cs).utf8ByteSize = cs.length := by
    induction cs with
    | nil => rfl
    | cons c cs ih =>
      rw [List.forall_mem_cons] at hcs
      have hcons : String.ofList (c :: cs) = String.singleton c ++ String.ofList cs := by
        apply String.toList_inj.1
        simp
      rw [hcons, String.utf8ByteSize_append, String.utf8ByteSize_singleton, hcs.1, ih hcs.2, List.length_cons]
      omega
  have hs := hofList s.toList h
  rw [String.ofList_toList] at hs
  exact hs

theorem utf8ByteSize_toHex (bs : Bytes) : (toHex bs).utf8ByteSize = 2 * bs.length := by
  rw [utf8ByteSize_of_ascii, length_toList_toHex]
  intro c hc
  have hsize : hexDigits.all (·.utf8Size == 1) := by
    decide
  exact beq_iff_eq.1 (List.all_eq_true.1 hsize c (mem_hexDigits_of_mem_toHex hc))

end Bytes

theorem Certificate.utf8ByteSize_sha256Hex_le (c : Certificate) : c.sha256Hex.utf8ByteSize ≤ 64 := by
  have hdigest : (Crypto.sha256.digest c.der).length ≤ 32 := List.length_take_le _ _
  unfold sha256Hex
  rw [Bytes.utf8ByteSize_toHex]
  omega

end PodProbe
