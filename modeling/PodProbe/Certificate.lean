import PodProbe.Bytes

/-!
This module contains certificates as servers present them, ordered by their bytes.
-/

namespace PodProbe

/-- The DER bytes of a certificate, which need not be well formed. -/
structure Certificate where
  der : Bytes
deriving DecidableEq, Repr

namespace Certificate

def before (a b : Certificate) : Bool :=
  decide (a.der < b.der)

def insert (c : Certificate) : List Certificate → List Certificate
  | [] => [c]
  | d :: ds =>
    if c = d then d :: ds
    else if c.before d then c :: d :: ds
    else d :: insert c ds

theorem mem_insert {c d : Certificate} {ds : List Certificate} : d ∈ insert c ds ↔ d = c ∨ d ∈ ds := by
  induction ds with
  | nil => simp [insert]
  | cons e es ih =>
    by_cases h : c = e
    · subst h
      simp [insert]
    · by_cases h' : c.before e
      · simp [insert, h, h']
      · simp only [insert, h, h', if_false, List.mem_cons, ih, Bool.false_eq_true]
        constructor
        · rintro (rfl | rfl | hd)
          · exact Or.inr (Or.inl rfl)
          · exact Or.inl rfl
          · exact Or.inr (Or.inr hd)
        · rintro (rfl | rfl | hd)
          · exact Or.inr (Or.inl rfl)
          · exact Or.inl rfl
          · exact Or.inr (Or.inr hd)

def Ascending (cs : List Certificate) : Prop :=
  cs.Pairwise fun c d => c.der < d.der

theorem ascending_insert (c : Certificate) {ds : List Certificate} (h : Ascending ds) : Ascending (insert c ds) := by
  induction ds with
  | nil => exact List.pairwise_singleton _ _
  | cons d ds ih =>
    obtain ⟨hd, hds⟩ := List.pairwise_cons.1 h
    unfold insert
    split
    · exact h
    · next hne =>
      split
      · next hbefore =>
        have hlt : c.der < d.der := of_decide_eq_true hbefore
        apply List.Pairwise.cons _ h
        intro x hx
        cases List.mem_cons.1 hx with
        | inl heq => exact heq ▸ hlt
        | inr hmem => exact List.lt_trans hlt (hd x hmem)
      · next hbefore =>
        have hlt : d.der < c.der := by
          apply Decidable.of_not_not
          intro hge
          have hle := List.not_lt.1 (of_decide_eq_false (eq_false_of_ne_true hbefore))
          have hder : c.der = d.der := List.le_antisymm (List.not_lt.1 hge) hle
          exact hne (congrArg mk hder)
        apply List.Pairwise.cons _ (ih hds)
        intro x hx
        cases mem_insert.1 hx with
        | inl heq => exact heq ▸ hlt
        | inr hmem => exact hd x hmem

theorem nodup_of_ascending {cs : List Certificate} (h : Ascending cs) : cs.Nodup := by
  apply h.imp
  intro c d hlt heq
  exact List.lt_irrefl d.der (heq ▸ hlt)

end Certificate

end PodProbe
