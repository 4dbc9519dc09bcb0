import PodProbe.ErrorChain

/-!
This module contains the errors that are met from an error on, whether they are wrapped or lie behind, and the order in
which a walk meets them: an error, then what it wraps with all that is behind it, then what is behind the error itself.
-/

namespace PodProbe.ErrorChain

/-! ### Induction on what errors wrap and on what is behind them -/

section

variable {P : ErrorChain → Prop}
  (h : ∀ e, (∀ inner ∈ e.payload?, P inner) → (∀ s ∈ e.source?, P s) → P e)

include h in
/-- The error behind one that wraps another is behind the wrapped one, so that it has to be carried along. -/
theorem and_source_of_parts : (e : ErrorChain) → P e ∧ ∀ s ∈ e.source?, P s
  | text m none => ⟨h _ nofun nofun, nofun⟩
  | text m (some s) => by
    have hs := (and_source_of_parts s).1
    have hsource : ∀ s' ∈ (text m (some s)).source?, P s' := by
      rintro s' ⟨⟩
      exact hs
    exact ⟨h _ nofun hsource, hsource⟩
  | system code => ⟨h _ nofun nofun, nofun⟩
  | kind k => ⟨h _ nofun nofun, nofun⟩
  | wrapped k inner => by
    have hinner := and_source_of_parts inner
    have hpayload : ∀ e ∈ (wrapped k inner).payload?, P e := by
      rintro e ⟨⟩
      exact hinner.1
    exact ⟨h _ hpayload hinner.2, hinner.2⟩
  | tls e => ⟨h _ nofun nofun, nofun⟩

include h in
theorem of_parts (e : ErrorChain) : P e :=
  (and_source_of_parts h e).1

end

/-! ### What is met -/

/-- Whether an error is met from another one on, at any depth. -/
inductive Reaches : ErrorChain → ErrorChain → Prop where
  | self (e : ErrorChain) : Reaches e e
  | payload {e inner x : ErrorChain} (hpayload : e.payload? = some inner) (hx : Reaches inner x) : Reaches e x
  | source {e s x : ErrorChain} (hsource : e.source? = some s) (hx : Reaches s x) : Reaches e x

/-- All that is met from an error on. What is behind a wrapped error is met twice. -/
def walk : ErrorChain → List ErrorChain
  | text m (some s) => text m (some s) :: walk s
  | wrapped k inner => wrapped k inner :: (walk inner ++ behind inner)
  | e => [e]
where
  behind : ErrorChain → List ErrorChain
    | text _ (some s) => walk s
    | wrapped _ inner => behind inner
    | _ => []

theorem behind_eq : (e : ErrorChain) → walk.behind e = e.source?.elim [] walk
  | text _ none => rfl
  | text _ (some _) => rfl
  | system _ => rfl
  | kind _ => rfl
  | wrapped _ inner => behind_eq inner
  | tls _ => rfl

theorem walk_eq (e : ErrorChain) : e.walk = e :: (e.payload?.elim [] walk ++ e.source?.elim [] walk) := by
  cases e with
  | text m source => cases source <;> rfl
  | system code => rfl
  | kind k => rfl
  | wrapped k inner =>
    rw [walk, behind_eq]
    rfl
  | tls e => rfl

theorem mem_elim_walk_iff {part : Option ErrorChain} {x : ErrorChain}
    : x ∈ part.elim [] walk ↔ ∃ e ∈ part, x ∈ e.walk := by
  cases part <;> simp

theorem mem_walk_iff {e x : ErrorChain} : x ∈ e.walk ↔ e.Reaches x := by
  induction e using of_parts with
  | h e hpayload hsource =>
    rw [walk_eq, List.mem_cons, List.mem_append, mem_elim_walk_iff, mem_elim_walk_iff]
    constructor
    . rintro (rfl | ⟨inner, hinner, hx⟩ | ⟨s, hs, hx⟩)
      . exact .self x
      . exact .payload hinner ((hpayload inner hinner).1 hx)
      . exact .source hs ((hsource s hs).1 hx)
    . intro hx
      cases hx with
      | self => exact Or.inl rfl
      | payload hinner hx => exact Or.inr (Or.inl ⟨_, hinner, (hpayload _ hinner).2 hx⟩)
      | source hs hx => exact Or.inr (Or.inr ⟨_, hs, (hsource _ hs).2 hx⟩)

/-- Whether an error of TLS is the first one that is met from an error on. -/
def FirstTls (e : ErrorChain) (f : Tls.Error) : Prop :=
  ∃ before after, e.walk = before ++ tls f :: after ∧ ∀ g, tls g ∉ before

end PodProbe.ErrorChain
