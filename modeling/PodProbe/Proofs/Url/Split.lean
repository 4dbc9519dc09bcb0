import Mathlib.Data.List.TakeDrop
import Mathlib.Data.List.TakeWhile
import PodProbe.Proofs.Url.Host
import PodProbe.Url.Reader

/-!
This module contains the hosts of URLs as texts: how they are cut in two at the first dot.
-/

namespace PodProbe.Url

/-- The text of the host that a URL names. -/
def hostText? (s : String) : Option String :=
  (read s).toOption.bind fun u => u.host?.map Host.text

theorem span_append {α : Type} {p : α → Bool} {cs rest : List α} (hcs : ∀ c ∈ cs, p c)
    (hrest : ∀ c ∈ rest.head?, ¬ p c)
    : (cs ++ rest).span p = (cs, rest) := by
  rw [List.span_eq_takeWhile_dropWhile, List.takeWhile_append_of_pos hcs, List.dropWhile_append_of_pos hcs]
  cases rest with
  | nil => simp
  | cons c rest =>
    have hc : ¬ p c := hrest c rfl
    rw [List.takeWhile_cons_of_neg hc, List.dropWhile_cons_of_neg hc, List.append_nil]

theorem span_eq_self {α : Type} {p : α → Bool} {cs : List α} (h : ∀ c ∈ cs, p c) : cs.span p = (cs, []) := by
  have hspan : (cs ++ []).span p = (cs, []) := span_append h fun c hc => nomatch hc
  rw [List.append_nil] at hspan
  exact hspan

/-! ### At the first dot -/

structure CutAtDot (host name rest : String) : Prop where
  append_eq : name ++ rest = host
  dotless : Lacks '.' name.toList
  rest_eq : rest = "" ∨ ∃ tail, rest = "." ++ tail

theorem CutAtDot.span_eq {host name rest : String} (h : CutAtDot host name rest)
    : host.toList.span (· != '.') = (name.toList, rest.toList) := by
  rw [← h.append_eq, String.toList_append]
  apply span_append
  . intro c hc
    rw [bne_iff_ne]
    rintro rfl
    exact h.dotless hc
  . rcases h.rest_eq with rfl | ⟨tail, rfl⟩
    . simp
    . simp

theorem CutAtDot.unique {host name rest name' rest' : String} (h : CutAtDot host name rest)
    (h' : CutAtDot host name' rest')
    : name = name' ∧ rest = rest' := by
  have heq := h.span_eq.symm.trans h'.span_eq
  exact ⟨String.toList_injective (congrArg Prod.fst heq), String.toList_injective (congrArg Prod.snd heq)⟩

theorem CutAtDot.append {host name rest before : String} (h : CutAtDot host name rest)
    (hbefore : Lacks '.' before.toList)
    : CutAtDot (before ++ host) (before ++ name) rest where
  append_eq := by rw [String.append_assoc, h.append_eq]
  dotless := by
    rw [String.toList_append, lacks_append_iff]
    exact ⟨hbefore, h.dotless⟩
  rest_eq := h.rest_eq

theorem CutAtDot.exists_of_not_lacks {host name rest : String} (h : CutAtDot host name rest)
    (hdot : ¬ Lacks '.' host.toList)
    : ∃ tail, rest = "." ++ tail := by
  rcases h.rest_eq with rfl | htail
  . refine absurd h.dotless ?_
    rw [← h.append_eq, String.append_empty] at hdot
    exact hdot
  . exact htail

theorem CutAtDot.append_of_not_lacks {host name rest : String} (h : CutAtDot host name rest)
    (hdot : ¬ Lacks '.' host.toList) (after : String)
    : CutAtDot (host ++ after) name (rest ++ after) where
  append_eq := by rw [← String.append_assoc, h.append_eq]
  dotless := h.dotless
  rest_eq := by
    rcases h.exists_of_not_lacks hdot with ⟨tail, rfl⟩
    exact Or.inr ⟨tail ++ after, String.append_assoc⟩

theorem cutAtDot_span (host : String)
    : let cut := host.toList.span (· != '.')
      CutAtDot host (String.ofList cut.1) (String.ofList cut.2) := by
  rw [List.span_eq_takeWhile_dropWhile]
  constructor
  case append_eq =>
    rw [← String.ofList_append, List.takeWhile_append_dropWhile, String.ofList_toList]
  case dotless =>
    rw [String.toList_ofList]
    intro hmem
    have hdot := List.mem_takeWhile_imp hmem
    simp at hdot
  case rest_eq =>
    dsimp only
    have hhead := List.head?_dropWhile_not (· != '.') host.toList
    cases hrest : host.toList.dropWhile (· != '.') with
    | nil => exact Or.inl rfl
    | cons c tail =>
      rw [hrest] at hhead
      have hc : c = '.' := by simpa using hhead
      exact Or.inr ⟨String.ofList tail, String.toList_injective (by simp [hc])⟩

example : (let cut := "127.0.0.1".toList.span (· != '.'); (String.ofList cut.1, String.ofList cut.2))
    = ("127", ".0.0.1") := by
  decide

theorem exists_cutAtDot (host : String) : ∃ name rest, CutAtDot host name rest :=
  ⟨_, _, cutAtDot_span host⟩

theorem splitHost?_eq (s : String)
    : splitHost? s = (hostText? s).map fun host =>
        let cut := host.toList.span (· != '.')
        (String.ofList cut.1, String.ofList cut.2) := by
  unfold splitHost? hostText?
  cases read s with
  | error r => rfl
  | ok u =>
    dsimp only [Except.toOption, Option.bind_some]
    rw [Option.map_map]
    rfl

theorem splitHost?_eq_none_iff {s : String} : splitHost? s = none ↔ hostText? s = none := by
  rw [splitHost?_eq, Option.map_eq_none_iff]

theorem splitHost?_eq_some_iff {s name rest : String}
    : splitHost? s = some (name, rest) ↔ ∃ host, hostText? s = some host ∧ CutAtDot host name rest := by
  rw [splitHost?_eq, Option.map_eq_some_iff]
  constructor
  . rintro ⟨host, hhost, heq⟩
    cases heq
    exact ⟨host, hhost, cutAtDot_span host⟩
  . rintro ⟨host, hhost, hcut⟩
    refine ⟨host, hhost, ?_⟩
    dsimp only
    rw [hcut.span_eq, String.ofList_toList, String.ofList_toList]

end PodProbe.Url
