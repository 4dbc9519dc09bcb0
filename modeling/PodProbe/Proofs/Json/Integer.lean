import PodProbe.Json.Lexer

/-!
This module contains that an integer is read back from its decimal text, as long as it fits 64 bits and what follows
does not carry the number on.
-/

namespace PodProbe.Json

/-- Whether a text does not carry on a number that stands before it. -/
def EndsNumber (rest : List Char) : Prop :=
  ∀ c ∈ rest.head?, c.isDigit = false ∧ c ≠ '.' ∧ c ≠ 'e' ∧ c ≠ 'E'

theorem digitAhead_of_endsNumber {rest : List Char} (h : EndsNumber rest) : digitAhead rest = false := by
  cases rest with
  | nil => rfl
  | cons c cs => exact (h c rfl).1

theorem skipSpace_cons {c : Char} (h : isSpace c = false) (cs : List Char) : skipSpace (c :: cs) = c :: cs := by
  unfold skipSpace
  rw [List.dropWhile_cons_of_neg (by rw [h]; decide)]

/-! ### Digits -/

theorem le_ofDigitChars (ds : List Char) (n : Nat) : n ≤ Nat.ofDigitChars 10 ds n := by
  induction ds generalizing n with
  | nil => exact Nat.le_refl n
  | cons d ds ih =>
    rw [Nat.ofDigitChars_cons]
    refine Nat.le_trans ?_ (ih _)
    omega

theorem readDigits_append {ds rest : List Char} (hds : ∀ d ∈ ds, d.isDigit) (hrest : EndsNumber rest) (n count : Nat)
    (h : Nat.ofDigitChars 10 ds n ≤ greatestSignificand)
    : readDigits n count (ds ++ rest) = (Nat.ofDigitChars 10 ds n, count + ds.length, rest) := by
  induction ds generalizing n count with
  | nil =>
    cases rest with
    | nil => rfl
    | cons c cs => simp [readDigits, (hrest c rfl).1]
  | cons d ds ih =>
    rw [List.forall_mem_cons] at hds
    rw [Nat.ofDigitChars_cons] at h ⊢
    have hstep : 10 * n + digit d ≤ greatestSignificand := Nat.le_trans (le_ofDigitChars ds _) h
    rw [List.cons_append, readDigits, if_pos ⟨hds.1, hstep⟩]
    refine (ih hds.2 _ _ h).trans ?_
    rw [List.length_cons, Nat.add_assoc, Nat.add_comm 1]

theorem isDigit_of_mem_toDigits {n : Nat} {d : Char} (h : d ∈ Nat.toDigits 10 n) : d.isDigit :=
  Nat.isDigit_of_mem_toDigits (by decide) (by decide) h

theorem isSpace_eq_false_of_isDigit {c : Char} (h : c.isDigit) : isSpace c = false := by
  cases hspace : isSpace c with
  | false => rfl
  | true =>
    simp only [isSpace, Bool.or_eq_true, beq_iff_eq] at hspace
    rcases hspace with ((rfl | rfl) | rfl) | rfl <;> cases h

theorem digitChar_ne_zero : ∀ n < 10, 0 < n → Nat.digitChar n ≠ '0' := by
  decide

theorem head?_toDigits_ne_zero {n : Nat} (h : 0 < n) : (Nat.toDigits 10 n).head? ≠ some '0' := by
  -- All digits but the last are those of a tenth, which is not zero either.
  induction n using Nat.strongRecOn with
  | ind n ih =>
    rw [Nat.toDigits_eq_if (by decide)]
    split
    . next hlt =>
      intro hhead
      exact digitChar_ne_zero n hlt h (Option.some.inj hhead)
    . next hge =>
      rw [List.head?_append, Option.or_of_isSome (List.isSome_head?.2 Nat.toDigits_ne_nil)]
      exact ih (n / 10) (by omega) (by omega)

theorem toList_toString_ofNat (n : Nat) : (toString (Int.ofNat n)).toList = Nat.toDigits 10 n :=
  Nat.toList_repr

theorem toList_toString_negSucc (n : Nat) : (toString (Int.negSucc n)).toList = '-' :: Nat.toDigits 10 (n + 1) := by
  change ("-" ++ Nat.repr (n + 1)).toList = _
  rw [String.toList_append, Nat.toList_repr]
  rfl

/-! ### Numbers -/

theorem exists_readNumber_eq (negative : Bool) {n : Nat} (h : 0 < n)
    : ∃ d ds, (∀ d' ∈ d :: ds, d'.isDigit) ∧ Nat.ofDigitChars 10 ds (digit d) = n
        ∧ ∀ rest, readNumber negative (Nat.toDigits 10 n ++ rest)
            =
          let (n, _, rest) := readDigits (digit d) 0 (ds ++ rest)
          if digitAhead rest then finishLong negative n rest else finishNumber negative n rest := by
  have hvalue : Nat.ofDigitChars 10 (Nat.toDigits 10 n) 0 = n := Nat.ofDigitChars_toDigits (by decide) (by decide)
  have hdigits : ∀ d ∈ Nat.toDigits 10 n, d.isDigit := fun _ => isDigit_of_mem_toDigits
  have hzero : (Nat.toDigits 10 n).head? ≠ some '0' := head?_toDigits_ne_zero h
  cases hds : Nat.toDigits 10 n with
  | nil => exact absurd hds Nat.toDigits_ne_nil
  | cons d ds =>
    rw [hds] at hvalue hdigits hzero
    rw [Nat.ofDigitChars_cons, Nat.mul_zero, Nat.zero_add] at hvalue
    refine ⟨d, ds, hdigits, hvalue, fun rest => ?_⟩
    rw [List.cons_append, readNumber, if_neg fun heq => hzero (congrArg some heq), if_pos (hdigits d List.mem_cons_self)]

theorem readNumber_toDigits {rest : List Char} (hrest : EndsNumber rest) (negative : Bool) {n : Nat}
    (h : n ≤ greatestSignificand)
    : readNumber negative (Nat.toDigits 10 n ++ rest) = finishNumber negative n rest := by
  cases Nat.eq_zero_or_pos n with
  | inl hzero =>
    subst hzero
    change (if digitAhead rest then _ else _) = _
    rw [digitAhead_of_endsNumber hrest]
    rfl
  | inr hpos =>
    obtain ⟨d, ds, hdigits, hvalue, hread⟩ := exists_readNumber_eq negative hpos
    rw [hread, readDigits_append (List.forall_mem_cons.1 hdigits).2 hrest _ _ (Nat.le_trans (Nat.le_of_eq hvalue) h)]
    dsimp only
    rw [digitAhead_of_endsNumber hrest, hvalue]
    exact if_neg Bool.false_ne_true

theorem finishNumber_of_endsNumber {rest : List Char} (h : EndsNumber rest) (negative : Bool) (n : Nat)
    : finishNumber negative n rest
        =
      if !negative then .ok (.int n, rest)
      else if n ≠ 0 ∧ n ≤ 1 <<< 63 then .ok (.int (-(n : Int)), rest)
      else readReal true n 0 rest := by
  unfold finishNumber
  split
  . exact absurd rfl (h '.' rfl).2.1
  . exact absurd rfl (h 'e' rfl).2.2.1
  . exact absurd rfl (h 'E' rfl).2.2.2
  . rfl

end PodProbe.Json
