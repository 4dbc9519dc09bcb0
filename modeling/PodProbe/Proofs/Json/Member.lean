import PodProbe.Proofs.Json.Yields

/-!
This module contains the order of the members of an object: whatever text it is read from, each key stands there once,
and the keys ascend.
-/

namespace PodProbe.Json

/-! ### Numbers -/

def IsNumber : Json → Prop
  | int _ => True
  | real _ => True
  | _ => False

theorem yields_readReal (negative : Bool) (significand : Nat) (e : Int) (cs : List Char)
    : Yields (readReal negative significand e cs) fun r => r.1.IsNumber := by
  unfold readReal
  split
  . exact yields_ok trivial
  . apply yields_fault

theorem yields_readExponent (negative : Bool) (significand : Nat) (start : Int) (cs : List Char)
    : Yields (readExponent negative significand start cs) fun r => r.1.IsNumber := by
  unfold readExponent
  dsimp only
  split
  . apply yields_fault
  . split
    . intro r h
      cases h
    . apply yields_ite
      . exact yields_ite (yields_fault _ _) (yields_ok trivial)
      . apply yields_readReal

theorem yields_finishReal (negative : Bool) (significand : Nat) (e : Int) (cs : List Char)
    : Yields (finishReal negative significand e cs) fun r => r.1.IsNumber := by
  unfold finishReal
  split
  . apply yields_readExponent
  . apply yields_readExponent
  . apply yields_readReal

theorem yields_readFraction (negative : Bool) (significand : Nat) (e : Int) (cs : List Char)
    : Yields (readFraction negative significand e cs) fun r => r.1.IsNumber := by
  unfold readFraction
  dsimp only
  split
  . apply yields_finishReal
  . split
    . split
      . apply yields_fault
      . apply yields_faultAhead
    . apply yields_finishReal

theorem yields_finishNumber (negative : Bool) (significand : Nat) (cs : List Char)
    : Yields (finishNumber negative significand cs) fun r => r.1.IsNumber := by
  unfold finishNumber
  split
  . apply yields_readFraction
  . apply yields_readExponent
  . apply yields_readExponent
  . split
    . exact yields_ok trivial
    . split
      . exact yields_ok trivial
      . apply yields_readReal

theorem yields_finishLong (negative : Bool) (significand : Nat) (cs : List Char)
    : Yields (finishLong negative significand cs) fun r => r.1.IsNumber := by
  unfold finishLong
  dsimp only
  split
  . apply yields_readFraction
  . apply yields_finishReal

theorem yields_readNumber (negative : Bool) (cs : List Char)
    : Yields (readNumber negative cs) fun r => r.1.IsNumber := by
  unfold readNumber
  split
  . apply yields_fault
  . split
    . split
      . apply yields_faultAhead
      . apply yields_finishNumber
    . split
      . dsimp only
        split
        . apply yields_finishLong
        . apply yields_finishNumber
      . intro r h
        cases h

theorem IsNumber.members?_eq_none {j : Json} (h : j.IsNumber) : j.members? = none := by
  cases j with
  | int n => rfl
  | real d => rfl
  | _ => cases h

/-! ### Members -/

def Ascending (members : List (String × Json)) : Prop :=
  members.Pairwise fun a b => a.1 < b.1

theorem mem_insertMember {key : String} {value : Json} {members : List (String × Json)} {m : String × Json}
    (h : m ∈ insertMember key value members) : m = (key, value) ∨ m ∈ members := by
  induction members with
  | nil => exact Or.inl (List.mem_singleton.1 h)
  | cons head members ih =>
    unfold insertMember at h
    split at h
    . rcases List.mem_cons.1 h with rfl | h
      . exact Or.inl rfl
      . exact Or.inr (List.mem_cons_of_mem head h)
    . split at h
      . exact List.mem_cons.1 h
      . rcases List.mem_cons.1 h with rfl | h
        . exact Or.inr List.mem_cons_self
        . exact (ih h).imp_right (List.mem_cons_of_mem head)

theorem Ascending.insertMember {members : List (String × Json)} (h : Ascending members) (key : String) (value : Json)
    : Ascending (insertMember key value members) := by
  induction members with
  | nil => exact List.pairwise_singleton _ _
  | cons head members ih =>
    obtain ⟨hhead, hrest⟩ := List.pairwise_cons.1 h
    unfold Json.insertMember
    split
    . next heq =>
      -- The key stays and only its value is replaced.
      rw [heq]
      exact List.pairwise_cons.2 ⟨hhead, hrest⟩
    . next hne =>
      split
      . next hlt =>
        refine List.pairwise_cons.2 ⟨List.forall_mem_cons.2 ⟨hlt, fun m hm => ?_⟩, h⟩
        exact String.lt_trans hlt (hhead m hm)
      . next hnot =>
        refine List.pairwise_cons.2 ⟨fun m hm => ?_, ih hrest⟩
        rcases mem_insertMember hm with rfl | hm
        . exact String.not_le.1 fun hle => hne (String.le_antisymm hle (String.not_lt.1 hnot))
        . exact hhead m hm

theorem lookup_cons_eq_ite (key k : String) (value : Json) (members : List (String × Json))
    : ((k, value) :: members).lookup key = if key = k then some value else members.lookup key := by
  rw [List.lookup_cons]
  split <;> simp_all

theorem Ascending.lookup_eq_some_iff {members : List (String × Json)} (h : Ascending members) {key : String}
    {value : Json}
    : members.lookup key = some value ↔ (key, value) ∈ members := by
  induction members with
  | nil => simp
  | cons head members ih =>
    obtain ⟨hhead, hrest⟩ := List.pairwise_cons.1 h
    rcases head with ⟨k, v⟩
    rw [lookup_cons_eq_ite, List.mem_cons, Prod.mk.injEq]
    by_cases hkey : key = k
    . have hnot : (key, value) ∉ members := fun hmem => String.lt_irrefl k (hkey ▸ hhead _ hmem)
      simp [hkey ▸ hnot, hkey, eq_comm]
    . simp [hkey, ih hrest]

theorem lookup_insertMember (key : String) (value : Json) (members : List (String × Json)) (k : String)
    : (insertMember key value members).lookup k = if k = key then some value else members.lookup k := by
  induction members with
  | nil => exact lookup_cons_eq_ite k key value []
  | cons head members ih =>
    unfold insertMember
    split
    . next heq =>
      rw [lookup_cons_eq_ite, lookup_cons_eq_ite, ← heq]
      split <;> rfl
    . next hne =>
      split
      . apply lookup_cons_eq_ite
      . rw [lookup_cons_eq_ite, lookup_cons_eq_ite, ih]
        split
        . next hk => rw [if_neg (hk ▸ Ne.symm hne)]
        . rfl

/-- The members that come from the pairs of an object, of which a later one replaces those with the same key. -/
def collect (written : List (String × Json)) : List (String × Json) :=
  written.foldl (fun members m => Json.insertMember m.1 m.2 members) []

theorem Ascending.foldl_insertMember {acc : List (String × Json)} (h : Ascending acc) (written : List (String × Json))
    : Ascending (written.foldl (fun members m => Json.insertMember m.1 m.2 members) acc) := by
  induction written generalizing acc with
  | nil => exact h
  | cons m written ih => exact ih (h.insertMember m.1 m.2)

theorem lookup_foldl_insertMember (acc written : List (String × Json)) (key : String)
    : (written.foldl (fun members m => Json.insertMember m.1 m.2 members) acc).lookup key
        =
      (written.reverse.lookup key).or (acc.lookup key) := by
  induction written generalizing acc with
  | nil => rfl
  | cons m written ih =>
    rw [List.foldl_cons, ih, lookup_insertMember, List.reverse_cons, List.lookup_append, Option.or_assoc,
      lookup_cons_eq_ite, List.lookup_nil]
    split <;> rfl

theorem ascending_collect (written : List (String × Json)) : Ascending (collect written) :=
  Ascending.foldl_insertMember List.Pairwise.nil written

theorem lookup_collect (written : List (String × Json)) (key : String)
    : (collect written).lookup key = written.reverse.lookup key := by
  unfold collect
  rw [lookup_foldl_insertMember, List.lookup_nil, Option.or_none]

/-! ### Objects -/

/-- The pairs that stand ahead in a text, up to the end of their object. -/
inductive Lists (value : List Char → Result (Json × List Char))
    : Bool → List Char → List (String × Json) → List Char → Prop where
  | close {first : Bool} {cs rest : List Char}
      (hend : itemAhead first '\x7d' .endInObject .expectedObjectCommaOrEnd cs = .ok (false, rest))
      : Lists value first cs [] rest
  | pair {first : Bool} {cs cs₁ cs₂ cs₃ cs₄ rest : List Char} {key : String} {j : Json} {written : List (String × Json)}
      (hmore : itemAhead first '\x7d' .endInObject .expectedObjectCommaOrEnd cs = .ok (true, cs₁))
      (hkey : readKey cs₁ = .ok (key, cs₂)) (hcolon : readColon cs₂ = .ok ((), cs₃)) (hvalue : value cs₃ = .ok (j, cs₄))
      (hrest : Lists value false cs₄ written rest)
      : Lists value first cs ((key, j) :: written) rest

/-- Whether a text is an object, and which pairs it has. -/
def Spells (text : String) (written : List (String × Json)) : Prop :=
  ∃ cs rest, skipSpace text.toList = '\x7b' :: cs
    ∧ Lists (readValue (depthLimit - 1)) true cs written rest ∧ skipSpace rest = []

theorem yields_readMembers (value : List Char → Result (Json × List Char)) (acc : List (String × Json)) (first : Bool)
    (fuel : Nat) (cs : List Char)
    : Yields (readMembers value acc first fuel cs) fun r =>
        ∃ written, Lists value first cs written r.2
          ∧ r.1 = written.foldl (fun members m => Json.insertMember m.1 m.2 members) acc := by
  induction fuel generalizing acc first cs with
  | zero => exact yields_fault _ _
  | succ fuel ih =>
    unfold readMembers
    refine Yields.bind yields_self fun ⟨more, ahead⟩ hahead => ?_
    cases more with
    | true =>
      refine Yields.bind yields_self fun key hkey => ?_
      refine Yields.bind yields_self fun colon hcolon => ?_
      refine Yields.bind yields_self fun member hmember => ?_
      refine (ih _ _ _).mono ?_
      rintro r ⟨written, hlists, hr⟩
      exact ⟨(key.1, member.1) :: written, .pair hahead hkey hcolon hmember hlists, hr⟩
    | false => exact yields_ok ⟨[], .close hahead, rfl⟩

/-- A value is no object, or it comes from the pairs ahead. -/
def CollectsFrom (value : List Char → Result (Json × List Char)) (cs : List Char) (j : Json) (rest : List Char) : Prop :=
  ∀ members ∈ j.members?, ∃ ahead written,
    skipSpace cs = '\x7b' :: ahead ∧ Lists value true ahead written rest ∧ members = collect written

theorem collectsFrom_of_members?_eq_none {value : List Char → Result (Json × List Char)} {cs rest : List Char} {j : Json}
    (h : j.members? = none) : CollectsFrom value cs j rest := by
  intro members hmembers
  rw [h] at hmembers
  cases hmembers

theorem yields_readValueWith (value : List Char → Result (Json × List Char)) (cs : List Char)
    : Yields (readValueWith (some value) cs) fun r => CollectsFrom value cs r.1 r.2 := by
  have hword {j : Json} (h : j.members? = none) (ws cs' : List Char)
      : Yields (readWord j ws cs') fun r => CollectsFrom value cs r.1 r.2 := by
    refine (yields_readWord j ws cs').mono fun r hr => ?_
    apply collectsFrom_of_members?_eq_none
    rw [hr]
    exact h
  have hnumber (negative : Bool) (cs' : List Char)
      : Yields (readNumber negative cs') fun r => CollectsFrom value cs r.1 r.2 :=
    (yields_readNumber negative cs').mono fun r hr => collectsFrom_of_members?_eq_none hr.members?_eq_none
  unfold readValueWith
  split
  . apply yields_fault
  . exact hword rfl _ _
  . exact hword rfl _ _
  . exact hword rfl _ _
  . apply hnumber
  . refine yields_bind fun s => ?_
    exact yields_ok (collectsFrom_of_members?_eq_none rfl)
  . refine yields_bind fun items => ?_
    exact yields_ok (collectsFrom_of_members?_eq_none rfl)
  . next ahead hahead =>
    refine (yields_readMembers value [] true _ ahead).bind ?_
    rintro ⟨members, rest⟩ ⟨written, hlists, hr⟩
    apply yields_ok
    intro ms hms
    cases hms
    exact ⟨ahead, written, hahead, hlists, hr⟩
  . exact yields_ite (hnumber _ _) (yields_faultAhead _ _)

theorem exists_spells_of_ofText {text : String} {members : List (String × Json)} (h : ofText text = .ok (.obj members))
    : ∃ written, Spells text written ∧ members = collect written := by
  have hyields
      : Yields (ofChars text.toList) fun j =>
          ∀ members ∈ j.members?, ∃ written, Spells text written ∧ members = collect written := by
    refine (yields_readValueWith (readValue (depthLimit - 1)) text.toList).bind ?_
    intro r hr j hfinish members hmembers
    obtain ⟨hrest, rfl⟩ := finish_eq_ok_iff.1 hfinish
    obtain ⟨ahead, written, hahead, hlists, rfl⟩ := hr members hmembers
    exact ⟨written, ⟨ahead, r.2, hahead, hlists, hrest⟩, rfl⟩
  exact hyields _ (ofText_eq_ok_iff.1 h) members rfl

end PodProbe.Json
