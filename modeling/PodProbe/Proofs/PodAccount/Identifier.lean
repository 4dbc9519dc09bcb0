import PodProbe.PodAccount
import PodProbe.Proofs.Json.Literal

/-!
This module contains that identifiers are read alike whether they are written as numbers or as texts. An integer that
is out of range gives none in either case, and never one that was wrapped or rounded.
-/

namespace PodProbe

namespace Text

theorem natural?_toDigits (n : Nat) : natural? (Nat.toDigits 10 n) = some n := by
  have hdigits : (Nat.toDigits 10 n).all Char.isDigit := by
    rw [List.all_eq_true]
    exact fun _ => Json.isDigit_of_mem_toDigits
  have hvalue : Nat.ofDigitChars 10 (Nat.toDigits 10 n) 0 = n := Nat.ofDigitChars_toDigits (by decide) (by decide)
  unfold natural?
  rw [if_neg (by simp [hdigits, Nat.toDigits_ne_nil])]
  exact congrArg some hvalue

theorem integer?_toString (n : Int) : integer? (toString n).toList = some n := by
  cases n with
  | ofNat n =>
    have hsign : ∀ d ∈ Nat.toDigits 10 n, d.isDigit := fun _ => Json.isDigit_of_mem_toDigits
    rw [Json.toList_toString_ofNat]
    unfold integer?
    split
    . next heq => exact absurd (hsign '-' (heq ▸ List.mem_cons_self)) (by decide)
    . next heq => exact absurd (hsign '+' (heq ▸ List.mem_cons_self)) (by decide)
    . rw [natural?_toDigits]
      rfl
  | negSucc n =>
    rw [Json.toList_toString_negSucc, integer?, natural?_toDigits]
    rfl

end Text

/-- Whether an identifier is an integer, be it written as a number or as a text. -/
def Identifies (n : Int) (id : Json) : Prop :=
  Json.ofText (toString n) = .ok id ∨ id = .str (toString n)

theorem inWord_eq (n : Int)
    : inWord n = if -9223372036854775808 ≤ n ∧ n < 9223372036854775808 then some n else none := by
  unfold inWord Json.leastInt Json.greatestInt
  congr 1
  exact propext (and_congr Iff.rfl (by omega))

theorem identifierNumber?_eq {n : Int} {id : Json} (h : Identifies n id) : identifierNumber? id = inWord n := by
  rcases h with hnumber | rfl
  . obtain ⟨_, ⟨_, rfl⟩ | ⟨hexact, d, rfl⟩⟩ := Json.isLiteral_of_ofText hnumber
    . rfl
    . -- A number that was rounded is out of the range of words.
      refine (if_neg fun hword => hexact ⟨hword.1, ?_⟩).symm
      exact Int.le_trans hword.2 (by decide)
  . change (Text.integer? (toString n).toList).bind inWord = _
    rw [Text.integer?_toString]
    rfl

theorem identifierText?_eq {n : Int} (hexact : Json.IsExact n) {id : Json} (h : Identifies n id)
    : identifierText? id = some (toString n) := by
  rcases h with hnumber | rfl
  . obtain ⟨_, ⟨_, rfl⟩ | ⟨hnot, _⟩⟩ := Json.isLiteral_of_ofText hnumber
    . rfl
    . exact absurd hexact hnot
  . rfl

theorem podId_ofJson? {payload id : Json} (h : (payload.get? "data").bind (·.get? "podId") = some id)
    : (PodInfo.ofJson? payload).map PodInfo.podId = some (identifierNumber? id) := by
  obtain ⟨data, hdata, hid⟩ := Option.bind_eq_some_iff.1 h
  obtain ⟨members, hmembers, hlookup⟩ := Option.bind_eq_some_iff.1 hid
  simp [PodInfo.ofJson?, hdata, hmembers, hlookup]

theorem id_ofJson? {payload id : Json} (h : payload.get? "id" = some id)
    : (SessionIdentity.ofJson? payload).map SessionIdentity.id = some (identifierText? id) := by
  obtain ⟨members, hmembers, hlookup⟩ := Option.bind_eq_some_iff.1 h
  simp [SessionIdentity.ofJson?, hmembers, hlookup]

/--
A number is read alike wherever its text stands, so that what the text is on its own is what a payload has there. One that
does not fit 64 bits is rounded when it is read, but the range of words excludes it.
-/
theorem alike_identifiers (n : Int)
    : (∀ number, Json.ofText (toString n) = .ok number → Json.IsLiteral n number)
        ∧ (∀ payload id, Identifies n id → (payload.get? "data").bind (·.get? "podId") = some id →
            (PodInfo.ofJson? payload).map PodInfo.podId
                =
              some (if -9223372036854775808 ≤ n ∧ n < 9223372036854775808 then some n else none))
        ∧ (-9223372036854775808 ≤ n → n < 18446744073709551616 →
            (∃ number, Json.ofText (toString n) = .ok number)
            ∧ ∀ payload id, Identifies n id → payload.get? "id" = some id →
                (SessionIdentity.ofJson? payload).map SessionIdentity.id = some (some (toString n))) := by
  refine ⟨fun number h => (Json.isLiteral_of_ofText h).1, ?_, ?_⟩
  . intro payload id hid hpayload
    rw [podId_ofJson? hpayload, identifierNumber?_eq hid, inWord_eq]
  . intro hleast hgreatest
    have hexact : Json.IsExact n := ⟨hleast, Int.le_of_lt_add_one hgreatest⟩
    refine ⟨⟨_, Json.ofText_of_isLiteral (Json.isLiteral_int hexact)⟩, ?_⟩
    intro payload id hid hpayload
    rw [id_ofJson? hpayload, identifierText?_eq hexact hid]

example
    : (Json.ofText "\x7b\"data\":\x7b\"podId\":18446744073709551616\x7d\x7d").toOption.bind PodInfo.ofJson?
        =
      some { podId := none, keyManagerUrl := none } := by
  decide +kernel

end PodProbe
