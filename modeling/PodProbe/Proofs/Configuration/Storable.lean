import PodProbe.Proofs.Configuration.Lines
import PodProbe.Proofs.Json.Yields

/-!
This module contains what holds of every configuration that is read from a text: it has no certificates, and its integer
fits 64 bits.
-/

namespace PodProbe

namespace Configuration

open Json (Yields yields_bind yields_fault yields_faultAhead yields_ok yields_readWord Result)

structure Storable (c : Configuration) : Prop where
  fits : ∀ n ∈ c.podId, Fits n
  certificates_eq : c.certificates = {}

theorem storable_empty : Storable {} where
  fits := by
    intro n hn
    cases hn
  certificates_eq := rfl

/-! ### Values -/

theorem yields_refuse {α : Type} {P : α → Prop} (wanted : String) (cs : List Char) : Yields (refuse wanted cs) P := by
  unfold refuse
  split
  . apply yields_fault
  . apply yields_bind
    intro x
    apply yields_fault
  . apply yields_fault
  . apply yields_fault
  . apply yields_bind
    intro x
    dsimp only
    split
    . apply yields_fault
    . apply yields_fault
    . apply yields_fault
    . apply yields_fault
    . apply yields_faultAhead

theorem yields_integerOf (j : Json) (cs rest : List Char) : Yields (integerOf j cs rest) fun r => Fits r.1 := by
  unfold integerOf
  split
  . split
    . next h => exact yields_ok h
    . apply yields_fault
  . apply yields_fault
  . apply yields_refuse

theorem yields_readInteger (cs : List Char) : Yields (readInteger cs) fun r => Fits r.1 := by
  unfold readInteger
  split
  . apply yields_bind
    intro r
    apply yields_integerOf
  . split
    . apply yields_bind
      intro r
      apply yields_integerOf
    . apply yields_refuse
  . apply yields_refuse

theorem yields_readOptional {α : Type} {P : α → Prop} {read : List Char → Result (α × List Char)}
    (h : ∀ cs, Yields (read cs) fun r => P r.1) (cs : List Char)
    : Yields (readOptional read cs) fun r => ∀ x ∈ r.1, P x := by
  unfold readOptional
  split
  . refine (yields_readWord _ _ _).mono fun r hr => ?_
    intro x hx
    rw [hr] at hx
    cases hx
  . refine Yields.bind (h _) fun r hr => ?_
    apply yields_ok
    intro x hx
    cases hx
    exact hr

/-! ### Fields -/

theorem Storable.yields_readField {c : Configuration} (h : c.Storable) (cs : List Char) (f : Field)
    : Yields (readField c cs f) fun r => r.1.Storable := by
  cases f with
  | podId =>
    unfold readField
    refine Yields.bind (yields_readOptional yields_readInteger _) fun r hr => ?_
    exact yields_ok ⟨hr, h.certificates_eq⟩
  | _ =>
    unfold readField
    refine yields_bind fun r => ?_
    exact yields_ok ⟨h.fits, h.certificates_eq⟩

theorem Storable.yields_readInOrder {c : Configuration} (h : c.Storable) (count : Nat) (cs : List Char)
    (fs : List Field)
    : Yields (readInOrder c count cs fs) fun r => r.1.Storable := by
  induction fs generalizing c count cs with
  | nil =>
    unfold readInOrder
    refine yields_bind fun rest => ?_
    exact yields_ok h
  | cons f fs ih =>
    unfold readInOrder
    refine yields_bind fun ahead => ?_
    dsimp only
    split
    . refine Yields.bind (h.yields_readField _ f) fun r hr => ?_
      exact ih hr _ _
    . split
      . exact yields_ok h
      . exact yields_fault _ _

theorem yields_refuseAgain {α : Type} {P : α → Prop} (f : Field) (cs : List Char)
    : Yields (refuseAgain f cs : Result α) P := by
  unfold refuseAgain
  split <;> exact yields_fault _ _

theorem Storable.yields_readMembers {c : Configuration} (h : c.Storable) (seen : List Field) (first : Bool) (fuel : Nat)
    (cs : List Char)
    : Yields (readMembers c seen first fuel cs) fun r => r.1.Storable := by
  induction fuel generalizing c seen first cs with
  | zero => exact yields_fault _ _
  | succ fuel ih =>
    unfold readMembers
    refine yields_bind fun ahead => ?_
    dsimp only
    split
    . refine yields_bind fun key => ?_
      split
      . split
        . exact yields_refuseAgain _ _
        . refine yields_bind fun colon => ?_
          refine Yields.bind (h.yields_readField _ _) fun r hr => ?_
          exact ih hr _ _ _
      . refine yields_bind fun colon => ?_
        refine yields_bind fun rest => ?_
        exact ih h _ _ _
    . exact yields_ok h

/-! ### Whole texts -/

theorem yields_readChars (cs : List Char) : Yields (readChars cs) Storable := by
  have hfinish (r : Configuration × List Char) (hr : r.1.Storable) : Yields (Json.finish r.1 r.2) Storable := by
    intro c h
    rw [← (Json.finish_eq_ok_iff.1 h).2]
    exact hr
  unfold readChars
  split
  . exact Yields.bind (storable_empty.yields_readInOrder _ _ _) hfinish
  . exact Yields.bind (storable_empty.yields_readMembers _ _ _ _) hfinish
  . exact Yields.bind (yields_refuse _ _) hfinish

theorem storable_of_ofText {s : String} {c : Configuration} (h : ofText s = .ok c) : c.Storable := by
  unfold ofText at h
  cases hread : readChars s.toList with
  | error e =>
    rw [hread] at h
    cases h
  | ok d =>
    rw [hread] at h
    cases h
    exact yields_readChars _ c hread

end Configuration

end PodProbe
