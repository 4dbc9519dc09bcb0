import PodProbe.Bytes

/-!
This module contains that a text survives its encoding as UTF-8: the bytes of every text are read back as that text.
-/

namespace PodProbe.Bytes

theorem toNat_ofNat_of_lt {n : Nat} (h : n < 256) : (UInt8.ofNat n).toNat = n := by
  rw [UInt8.toNat_ofNat']
  exact Nat.mod_eq_of_lt h

theorem ofNat_lt_iff {n m : Nat} {b : UInt8} (hb : b.toNat = m) (h : n < 256) : UInt8.ofNat n < b ↔ n < m := by
  rw [UInt8.lt_iff_toNat_lt, toNat_ofNat_of_lt h, hb]

theorem char?_toNat (c : Char) : char? c.toNat = some c := by
  unfold char?
  have hvalid : c.toNat.isValidChar := c.valid
  rw [dif_pos hvalid]
  rfl

theorem continuation?_ofNat {n : Nat} (h : n < 64) : continuation? (UInt8.ofNat (n + 128)) = some n := by
  unfold continuation?
  rw [toNat_ofNat_of_lt (by omega), if_pos (by omega)]
  congr 1
  omega

variable (bs : Bytes)

/-! ### One lemma for each length -/

theorem toChars?_one {x : Nat} (hx : x < 0x80)
    : toChars? (UInt8.ofNat x :: bs) = (char? x).bind fun c => (toChars? bs).map (c :: ·) := by
  have h : UInt8.ofNat x < 0x80 := (ofNat_lt_iff rfl (by omega)).2 hx
  rw [toChars?.eq_def]
  simp only [if_pos h]
  rw [toNat_ofNat_of_lt (by omega)]
  cases char? x <;> cases toChars? bs <;> rfl

theorem toChars?_two {x y : Nat} (hx : 2 ≤ x) (hx' : x < 32) (hy : y < 64)
    : toChars? (UInt8.ofNat (x + 192) :: UInt8.ofNat (y + 128) :: bs)
        =
      (char? (x * 64 + y)).bind fun c => (toChars? bs).map (c :: ·) := by
  have hlt (m : Nat) {b : UInt8} (hb : b.toNat = m) : UInt8.ofNat (x + 192) < b ↔ x + 192 < m :=
    ofNat_lt_iff hb (by omega)
  rw [toChars?.eq_def]
  dsimp only
  rw [if_neg (mt (hlt 0x80 rfl).1 (by omega)), if_neg (mt (hlt 0xC2 rfl).1 (by omega))]
  rw [if_pos ((hlt 0xE0 rfl).2 (by omega))]
  rw [continuation?_ofNat hy, toNat_ofNat_of_lt (by omega), Nat.add_sub_cancel]
  change (char? (x * 64 + y)).bind _ = _
  cases char? (x * 64 + y) <;> cases toChars? bs <;> rfl

theorem toChars?_three {x y z : Nat} (hx : x < 16) (hy : y < 64) (hz : z < 64) (h : 0x800 ≤ (x * 64 + y) * 64 + z)
    : toChars? (UInt8.ofNat (x + 224) :: UInt8.ofNat (y + 128) :: UInt8.ofNat (z + 128) :: bs)
        =
      (char? ((x * 64 + y) * 64 + z)).bind fun c => (toChars? bs).map (c :: ·) := by
  have hlt (m : Nat) {b : UInt8} (hb : b.toNat = m) : UInt8.ofNat (x + 224) < b ↔ x + 224 < m :=
    ofNat_lt_iff hb (by omega)
  rw [toChars?.eq_def]
  dsimp only
  rw [if_neg (mt (hlt 0x80 rfl).1 (by omega)), if_neg (mt (hlt 0xC2 rfl).1 (by omega))]
  rw [if_neg (mt (hlt 0xE0 rfl).1 (by omega)), if_pos ((hlt 0xF0 rfl).2 (by omega))]
  rw [continuation?_ofNat hy, continuation?_ofNat hz, toNat_ofNat_of_lt (by omega), Nat.add_sub_cancel]
  change (if (x * 64 + y) * 64 + z < 0x800 then none else _) = _
  rw [if_neg (by omega)]
  cases char? ((x * 64 + y) * 64 + z) <;> cases toChars? bs <;> rfl

theorem toChars?_four {w x y z : Nat} (hw : w < 5) (hx : x < 64) (hy : y < 64) (hz : z < 64)
    (h : 0x10000 ≤ ((w * 64 + x) * 64 + y) * 64 + z)
    : toChars? (UInt8.ofNat (w + 240) :: UInt8.ofNat (x + 128) :: UInt8.ofNat (y + 128) :: UInt8.ofNat (z + 128) :: bs)
        =
      (char? (((w * 64 + x) * 64 + y) * 64 + z)).bind fun c => (toChars? bs).map (c :: ·) := by
  have hlt (m : Nat) {b : UInt8} (hb : b.toNat = m) : UInt8.ofNat (w + 240) < b ↔ w + 240 < m :=
    ofNat_lt_iff hb (by omega)
  rw [toChars?.eq_def]
  dsimp only
  rw [if_neg (mt (hlt 0x80 rfl).1 (by omega)), if_neg (mt (hlt 0xC2 rfl).1 (by omega))]
  rw [if_neg (mt (hlt 0xE0 rfl).1 (by omega)), if_neg (mt (hlt 0xF0 rfl).1 (by omega))]
  rw [if_pos ((hlt 0xF5 rfl).2 (by omega))]
  rw [continuation?_ofNat hx, continuation?_ofNat hy, continuation?_ofNat hz, toNat_ofNat_of_lt (by omega),
    Nat.add_sub_cancel]
  change (if ((w * 64 + x) * 64 + y) * 64 + z < 0x10000 then none else _) = _
  rw [if_neg (by omega)]
  cases char? (((w * 64 + x) * 64 + y) * 64 + z) <;> cases toChars? bs <;> rfl

/-! ### Whole texts -/

theorem toNat_lt (c : Char) : c.toNat < 0x110000 := by
  have hvalid : c.toNat.isValidChar := c.valid
  unfold Nat.isValidChar at hvalid
  omega

theorem toChars?_encode (c : Char)
    : toChars? (String.utf8EncodeChar c ++ bs) = (toChars? bs).map (c :: ·) := by
  have hc := toNat_lt c
  have hread {n : Nat} (h : n = c.toNat)
      : ((char? n).bind fun c => (toChars? bs).map (c :: ·)) = (toChars? bs).map (c :: ·) := by
    rw [h, char?_toNat, Option.bind_some]
  unfold String.utf8EncodeChar
  have hval : c.val.toNat = c.toNat := rfl
  rw [hval]
  dsimp only
  split
  . exact (toChars?_one bs (by omega)).trans (hread rfl)
  . split
    . exact (toChars?_two bs (by omega) (by omega) (by omega)).trans (hread (by omega))
    . split
      . exact (toChars?_three bs (by omega) (by omega) (by omega) (by omega)).trans (hread (by omega))
      . exact (toChars?_four bs (by omega) (by omega) (by omega) (by omega) (by omega)).trans (hread (by omega))

theorem toChars?_ofChars (cs : List Char) : toChars? (ofChars cs) = some cs := by
  induction cs with
  | nil => rfl
  | cons c cs ih =>
    change toChars? (String.utf8EncodeChar c ++ ofChars cs) = _
    rw [toChars?_encode, ih]
    rfl

theorem toString?_ofString (s : String) : toString? (ofString s) = some s := by
  unfold toString? ofString
  rw [toChars?_ofChars, Option.map_some, String.ofList_toList]

end PodProbe.Bytes
