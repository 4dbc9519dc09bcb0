import PodProbe.Json.Reader

/-!
This module contains the rules by which it is told what a reader gives whenever it gives anything, without regard to
the text that it reads.
-/

namespace PodProbe.Json

/-- Whether what a reader gives has a property, unless it stops at a fault. -/
def Yields {α : Type} (x : Result α) (P : α → Prop) : Prop :=
  ∀ a, x = .ok a → P a

section

variable {α β : Type} {P : α → Prop} {Q : β → Prop}

theorem yields_ok {a : α} (h : P a) : Yields (.ok a) P := by
  intro b hb
  cases hb
  exact h

theorem yields_self {x : Result α} : Yields x fun a => x = .ok a := by
  intro a h
  exact h

theorem yields_fault (cause : Cause) (rest : List Char) : Yields (fault cause rest) P := by
  intro a h
  cases h

theorem yields_faultAhead (cause : Cause) (rest : List Char) : Yields (faultAhead cause rest) P := by
  intro a h
  cases h

theorem Yields.bind {x : Result α} {k : α → Result β} (hx : Yields x P) (hk : ∀ a, P a → Yields (k a) Q)
    : Yields (x >>= k) Q := by
  intro b hb
  cases x with
  | error e => cases hb
  | ok a => exact hk a (hx a rfl) b hb

theorem Yields.mono {Q : α → Prop} {x : Result α} (hx : Yields x P) (h : ∀ a, P a → Q a) : Yields x Q := by
  intro a ha
  exact h a (hx a ha)

theorem yields_bind {x : Result α} {k : α → Result β} (hk : ∀ a, Yields (k a) Q) : Yields (x >>= k) Q :=
  Yields.bind (P := fun _ => True) (fun _ _ => trivial) fun a _ => hk a

theorem yields_ite {c : Prop} [Decidable c] {x y : Result α} (hx : Yields x P) (hy : Yields y P)
    : Yields (if c then x else y) P := by
  split
  . exact hx
  . exact hy

theorem yields_readWord (value : α) (ws cs : List Char) : Yields (readWord value ws cs) fun r => r.1 = value := by
  induction ws generalizing cs with
  | nil => exact yields_ok rfl
  | cons w ws ih =>
    cases cs with
    | nil => exact yields_fault _ _
    | cons c cs =>
      unfold readWord
      split
      . exact ih cs
      . intro r h
        cases h

theorem finish_eq_ok_iff {value a : α} {cs : List Char} : finish value cs = .ok a ↔ skipSpace cs = [] ∧ value = a := by
  unfold finish
  split
  . next h => simp [h]
  . next h => exact iff_of_false (fun hok => nomatch hok) fun hend => h hend.1

end

theorem ofText_eq_ok_iff {s : String} {j : Json} : ofText s = .ok j ↔ ofChars s.toList = .ok j := by
  unfold ofText
  cases ofChars s.toList with
  | error e => exact iff_of_false (fun h => nomatch h) fun h => nomatch h
  | ok value =>
    constructor
    . intro h
      cases h
      rfl
    . intro h
      cases h
      rfl

theorem ofChars_eq_ok_iff {cs : List Char} {j : Json}
    : ofChars cs = .ok j ↔ ∃ rest, readValue depthLimit cs = .ok (j, rest) ∧ skipSpace rest = [] := by
  unfold ofChars
  cases readValue depthLimit cs with
  | error e => exact iff_of_false (fun h => nomatch h) fun ⟨_, h, _⟩ => nomatch h
  | ok r =>
    change finish r.1 r.2 = .ok j ↔ _
    rw [finish_eq_ok_iff]
    constructor
    . rintro ⟨hskip, rfl⟩
      exact ⟨r.2, rfl, hskip⟩
    . rintro ⟨rest, heq, hskip⟩
      cases heq
      exact ⟨hskip, rfl⟩

end PodProbe.Json
