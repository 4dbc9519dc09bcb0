import PodProbe.Json.Lexer
import PodProbe.Json.Printer

/-!
This module contains that a quoted text is read back as that text, whatever characters are in it and whatever follows
the closing quote.
-/

namespace PodProbe.Json

theorem hexValue?_hexDigit : ∀ n < 16, Bytes.hexValue? (Bytes.hexDigit n) = some n := by
  decide

theorem readEscape_control {c : Char} (h : c.toNat < 0x20) (rest : List Char)
    : readEscape ('u' :: '0' :: '0' :: Bytes.hexDigit (c.toNat / 16) :: Bytes.hexDigit (c.toNat % 16) :: rest)
        =
      .ok (c, rest) := by
  have hhex : readHex ('0' :: '0' :: Bytes.hexDigit (c.toNat / 16) :: Bytes.hexDigit (c.toNat % 16) :: rest)
      = .ok (c.toNat, rest) := by
    have hzero : Bytes.hexValue? '0' = some 0 := by decide
    unfold readHex
    dsimp only
    rw [hzero, hexValue?_hexDigit _ (by omega), hexValue?_hexDigit _ (by omega)]
    dsimp only
    congr 2
    omega
  change readUnicode _ = _
  unfold readUnicode
  rw [hhex]
  change (if _ then _ else if _ then _ else _) = _
  rw [if_neg (by omega), if_pos (by omega), Char.ofNat_toNat]

/-- A character stands for itself, or it is written as an escape that is read back as the character. -/
theorem escape_eq (c : Char)
    : (c ≠ '"' ∧ c ≠ '\\' ∧ ¬ c.toNat < 0x20) ∧ escape c = [c]
        ∨ ∃ cs, escape c = '\\' :: cs ∧ ∀ rest, readEscape (cs ++ rest) = .ok (c, rest) := by
  by_cases hshort : c ∈ ['"', '\\', '\x08', '\x0c', '\n', '\r', '\t']
  . right
    simp only [List.mem_cons, List.not_mem_nil, or_false] at hshort
    rcases hshort with rfl | rfl | rfl | rfl | rfl | rfl | rfl <;> exact ⟨_, rfl, fun _ => rfl⟩
  . simp only [List.mem_cons, List.not_mem_nil, or_false, not_or] at hshort
    unfold escape
    simp only [hshort, if_false]
    by_cases hcontrol : c.toNat < 0x20
    . right
      rw [if_pos hcontrol]
      exact ⟨_, rfl, readEscape_control hcontrol⟩
    . left
      exact ⟨⟨hshort.1, hshort.2.1, hcontrol⟩, if_neg hcontrol⟩

theorem readChars_escape (c : Char) (acc : List Char) (fuel : Nat) (rest : List Char)
    : readChars acc (fuel + 1) (escape c ++ rest) = readChars (c :: acc) fuel rest := by
  rcases escape_eq c with ⟨⟨hquote, hslash, hcontrol⟩, heq⟩ | ⟨cs, heq, hread⟩
  . rw [heq]
    simp [readChars, hcontrol]
  . rw [heq]
    change (readEscape (cs ++ rest) >>= _) = _
    rw [hread]
    rfl

theorem readChars_escaped (s acc rest : List Char) {fuel : Nat} (h : s.length < fuel)
    : readChars acc fuel (s.flatMap escape ++ '"' :: rest) = .ok (acc.reverse ++ s, rest) := by
  induction s generalizing acc fuel with
  | nil =>
    cases fuel with
    | zero => cases h
    | succ fuel => simp [readChars]
  | cons c s ih =>
    cases fuel with
    | zero => cases h
    | succ fuel =>
      rw [List.flatMap_cons, List.append_assoc, readChars_escape, ih (c :: acc) (Nat.lt_of_succ_lt_succ h)]
      simp

theorem length_le_length_flatMap {α : Type} {f : α → List Char} (h : ∀ x, f x ≠ []) (xs : List α)
    : xs.length ≤ (xs.flatMap f).length := by
  induction xs with
  | nil => exact Nat.le_refl 0
  | cons x xs ih =>
    have hx : 0 < (f x).length := List.length_pos_iff.2 (h x)
    rw [List.flatMap_cons, List.length_append, List.length_cons]
    omega

theorem escape_ne_nil (c : Char) : escape c ≠ [] := by
  rcases escape_eq c with ⟨_, heq⟩ | ⟨cs, heq, _⟩ <;> simp [heq]

theorem readString_escaped (s : String) (rest : List Char)
    : readString (s.toList.flatMap escape ++ '"' :: rest) = .ok (s, rest) := by
  have hlen := length_le_length_flatMap escape_ne_nil s.toList
  unfold readString
  rw [readChars_escaped]
  . simp [bind, Except.bind, pure, Except.pure]
  . rw [List.length_append]
    omega

theorem quoted_append (s : String) (rest : List Char)
    : quoted s ++ rest = '"' :: (s.toList.flatMap escape ++ '"' :: rest) := by
  unfold quoted
  simp

end PodProbe.Json
