import PodProbe.Proofs.Json.Integer
import PodProbe.Proofs.Json.Yields

/-!
This module contains what the decimal text of an integer is read as, wherever it stands. It is the integer itself as
long as it fits 64 bits, be it with a sign or without, and a number of the format binary64 if it does not, as long as
that is not infinite.
-/

namespace PodProbe.Json

/-- Whether an integer is kept as it is. -/
def IsExact (n : Int) : Prop :=
  leastInt ≤ n ∧ n ≤ greatestSignificand

/-- Whether the decimal text of an integer is read as a value, wherever it stands. -/
def IsLiteral (n : Int) (j : Json) : Prop :=
  ∀ depth rest, EndsNumber rest → readValue depth ((toString n).toList ++ rest) = .ok (j, rest)

/-! ### Digits that do not fit -/

theorem exists_readDigits_long {ds : List Char} (hds : ∀ d ∈ ds, d.isDigit) {n : Nat} (hn : n ≤ greatestSignificand)
    (h : greatestSignificand < Nat.ofDigitChars 10 ds n) (count : Nat)
    : ∃ m count' d left, (∀ d' ∈ d :: left, d'.isDigit)
        ∧ ∀ rest, readDigits n count (ds ++ rest) = (m, count', d :: left ++ rest) := by
  induction ds generalizing n count with
  | nil => exact absurd h (Nat.not_lt.2 hn)
  | cons d ds ih =>
    rw [Nat.ofDigitChars_cons] at h
    by_cases hstep : 10 * n + digit d ≤ greatestSignificand
    . obtain ⟨m, count', d', left, hleft, hread⟩ := ih (List.forall_mem_cons.1 hds).2 hstep h (count + 1)
      refine ⟨m, count', d', left, hleft, fun rest => ?_⟩
      rw [List.cons_append, readDigits, if_pos ⟨hds d List.mem_cons_self, hstep⟩]
      exact hread rest
    . refine ⟨n, count, d, ds, hds, fun rest => ?_⟩
      rw [List.cons_append, readDigits, if_neg fun hboth => hstep hboth.2]

theorem takeWhile_isDigit_append {ds rest : List Char} (hds : ∀ d ∈ ds, d.isDigit) (hrest : EndsNumber rest)
    : (ds ++ rest).takeWhile Char.isDigit = ds ∧ (ds ++ rest).dropWhile Char.isDigit = rest := by
  rw [List.takeWhile_append_of_pos hds, List.dropWhile_append_of_pos hds]
  cases rest with
  | nil => exact ⟨List.append_nil ds, rfl⟩
  | cons c rest =>
    have hc : ¬ c.isDigit := by
      rw [(hrest c rfl).1]
      exact Bool.false_ne_true
    rw [List.takeWhile_cons_of_neg hc, List.dropWhile_cons_of_neg hc]
    exact ⟨List.append_nil ds, rfl⟩

theorem finishReal_of_endsNumber {rest : List Char} (h : EndsNumber rest) (negative : Bool) (significand : Nat) (e : Int)
    : finishReal negative significand e rest = readReal negative significand e rest := by
  unfold finishReal
  split
  . exact absurd rfl (h 'e' rfl).2.2.1
  . exact absurd rfl (h 'E' rfl).2.2.2
  . rfl

theorem finishLong_digits {ds rest : List Char} (hds : ∀ d ∈ ds, d.isDigit) (hrest : EndsNumber rest) (negative : Bool)
    (significand : Nat)
    : finishLong negative significand (ds ++ rest) = readReal negative significand ds.length rest := by
  obtain ⟨htake, hdrop⟩ := takeWhile_isDigit_append hds hrest
  unfold finishLong
  rw [htake, hdrop]
  dsimp only
  split
  . exact absurd rfl (hrest '.' rfl).2.1
  . exact finishReal_of_endsNumber hrest ..

theorem digit_le_of_isDigit {d : Char} (h : d.isDigit) : digit d ≤ greatestSignificand := by
  have hle : d.toNat ≤ 57 := (Char.isDigit_iff_toNat.1 h).2
  unfold digit
  change d.toNat - 48 ≤ 18446744073709551615
  omega

theorem exists_readNumber_long (negative : Bool) {n : Nat} (h : greatestSignificand < n)
    : ∃ significand e, ∀ rest, EndsNumber rest →
        readNumber negative (Nat.toDigits 10 n ++ rest) = readReal negative significand e rest := by
  obtain ⟨d, ds, hdigits, hvalue, hread⟩ := exists_readNumber_eq negative (Nat.zero_lt_of_lt h)
  rw [List.forall_mem_cons] at hdigits
  obtain ⟨significand, count, d', left, hleft, hlong⟩ := exists_readDigits_long hdigits.2
    (digit_le_of_isDigit hdigits.1) (Nat.lt_of_lt_of_eq h hvalue.symm) 0
  refine ⟨significand, (d' :: left).length, fun rest hrest => ?_⟩
  have hahead : digitAhead (d' :: left ++ rest) = true := hleft d' List.mem_cons_self
  rw [hread, hlong]
  dsimp only
  rw [hahead, if_pos rfl]
  exact finishLong_digits hleft hrest ..

/-! ### Literals -/

theorem readValue_digit {c : Char} (h : c.isDigit) (depth : Nat) (cs : List Char)
    : readValue depth (c :: cs) = readNumber false (c :: cs) := by
  have hother {d : Char} {ds : List Char} (hd : d.isDigit = false) (heq : c :: cs = d :: ds) : False := by
    cases heq
    rw [h] at hd
    cases hd
  have hwith (inner : Option (List Char → Result (Json × List Char)))
      : readValueWith inner (c :: cs) = readNumber false (c :: cs) := by
    unfold readValueWith
    rw [skipSpace_cons (isSpace_eq_false_of_isDigit h)]
    split
    . next heq => cases heq
    . next heq => exact absurd heq (hother rfl)
    . next heq => exact absurd heq (hother rfl)
    . next heq => exact absurd heq (hother rfl)
    . next heq => exact absurd heq (hother rfl)
    . next heq => exact absurd heq (hother rfl)
    . next heq => exact absurd heq (hother rfl)
    . next heq => exact absurd heq (hother rfl)
    . next heq =>
      cases heq
      exact if_pos h
  cases depth with
  | zero => apply hwith
  | succ depth => apply hwith

theorem readValue_minus (depth : Nat) (cs : List Char) : readValue depth ('-' :: cs) = readNumber true cs := by
  cases depth with
  | zero => rfl
  | succ depth => rfl

theorem readValue_ofNat (depth n : Nat) (rest : List Char)
    : readValue depth ((toString (Int.ofNat n)).toList ++ rest) = readNumber false (Nat.toDigits 10 n ++ rest) := by
  rw [toList_toString_ofNat]
  cases hds : Nat.toDigits 10 n with
  | nil => exact absurd hds Nat.toDigits_ne_nil
  | cons d ds =>
    have hd : d.isDigit := isDigit_of_mem_toDigits (n := n) (hds ▸ List.mem_cons_self)
    exact readValue_digit hd depth (ds ++ rest)

theorem readValue_negSucc (depth n : Nat) (rest : List Char)
    : readValue depth ((toString (Int.negSucc n)).toList ++ rest) = readNumber true (Nat.toDigits 10 (n + 1) ++ rest) := by
  rw [toList_toString_negSucc, List.cons_append, readValue_minus]

theorem isLiteral_int {n : Int} (h : IsExact n) : IsLiteral n (.int n) := by
  intro depth rest hrest
  cases n with
  | ofNat n =>
    have hn : n ≤ greatestSignificand := Int.ofNat_le.1 h.2
    rw [readValue_ofNat, readNumber_toDigits hrest _ hn, finishNumber_of_endsNumber hrest]
    rfl
  | negSucc n =>
    have hn : n + 1 ≤ 9223372036854775808 := by
      have hleast := h.1
      unfold leastInt at hleast
      omega
    rw [readValue_negSucc, readNumber_toDigits hrest _ (Nat.le_trans hn (by decide)), finishNumber_of_endsNumber hrest]
    rw [if_neg (by decide), if_pos ⟨Nat.succ_ne_zero n, hn⟩]
    rfl

theorem exists_readValue_eq_readReal {n : Int} (h : ¬ IsExact n)
    : ∃ negative significand e, ∀ depth rest, EndsNumber rest →
        readValue depth ((toString n).toList ++ rest) = readReal negative significand e rest := by
  cases n with
  | ofNat n =>
    have hn : greatestSignificand < n := by
      refine Nat.lt_of_not_le fun hle => h ⟨?_, Int.ofNat_le.2 hle⟩
      exact Int.le_trans (by decide) (Int.natCast_nonneg n)
    obtain ⟨significand, e, hread⟩ := exists_readNumber_long false hn
    refine ⟨false, significand, e, fun depth rest hrest => ?_⟩
    rw [readValue_ofNat]
    exact hread rest hrest
  | negSucc n =>
    have hn : 9223372036854775808 < n + 1 := by
      refine Nat.lt_of_not_le fun hle => h ⟨?_, ?_⟩
      . unfold leastInt
        omega
      . exact Int.le_trans (Int.le_of_lt (Int.negSucc_lt_zero n)) (Int.natCast_nonneg _)
    by_cases hlong : greatestSignificand < n + 1
    . obtain ⟨significand, e, hread⟩ := exists_readNumber_long true hlong
      refine ⟨true, significand, e, fun depth rest hrest => ?_⟩
      rw [readValue_negSucc]
      exact hread rest hrest
    . refine ⟨true, n + 1, 0, fun depth rest hrest => ?_⟩
      rw [readValue_negSucc, readNumber_toDigits hrest _ (Nat.le_of_not_lt hlong), finishNumber_of_endsNumber hrest]
      rw [if_neg (by decide), if_neg fun hboth => Nat.not_le.2 hn hboth.2]

theorem exists_real_of_readReal {negative : Bool} {significand : Nat} {e : Int} {j : Json} {rest rest' : List Char}
    (h : readReal negative significand e rest = .ok (j, rest'))
    : ∃ d, j = .real d ∧ ∀ rest, readReal negative significand e rest = .ok (.real d, rest) := by
  unfold readReal at h ⊢
  cases hdouble : (Double.ofNat? significand).bind (scale · e) with
  | none =>
    rw [hdouble] at h
    cases h
  | some d =>
    rw [hdouble] at h
    cases h
    exact ⟨_, rfl, fun _ => rfl⟩

theorem ofText_of_isLiteral {n : Int} {j : Json} (h : IsLiteral n j) : ofText (toString n) = .ok j := by
  have hread := h depthLimit [] fun c hc => nomatch hc
  rw [List.append_nil] at hread
  exact ofText_eq_ok_iff.2 (ofChars_eq_ok_iff.2 ⟨[], hread, rfl⟩)

theorem isLiteral_of_ofText {n : Int} {j : Json} (h : ofText (toString n) = .ok j)
    : IsLiteral n j ∧ (IsExact n ∧ j = .int n ∨ ¬ IsExact n ∧ ∃ d, j = .real d) := by
  by_cases hexact : IsExact n
  . have hint := isLiteral_int hexact
    cases h.symm.trans (ofText_of_isLiteral hint)
    exact ⟨hint, Or.inl ⟨hexact, rfl⟩⟩
  . obtain ⟨negative, significand, e, hreal⟩ := exists_readValue_eq_readReal hexact
    obtain ⟨rest, hread, _⟩ := ofChars_eq_ok_iff.1 (ofText_eq_ok_iff.1 h)
    have hwhole := hreal depthLimit [] fun c hc => nomatch hc
    rw [List.append_nil, hread] at hwhole
    obtain ⟨d, rfl, hanywhere⟩ := exists_real_of_readReal hwhole.symm
    refine ⟨fun depth rest hrest => ?_, Or.inr ⟨hexact, d, rfl⟩⟩
    rw [hreal depth rest hrest]
    exact hanywhere rest

end PodProbe.Json
