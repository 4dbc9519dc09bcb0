import Mathlib.Data.Finset.Card
import PodProbe.Proofs.Harvest

/-!
This module contains that a harvest is a set of certificates in spite of the lists that it is kept in. However probes
are taken in, one by one or many at once, what comes of them depends on nothing but which chains they have.
-/

namespace PodProbe.Harvest

inductive Intake where
  | one (p : Probe)
  | many (ps : List Probe)

namespace Intake

def probes : Intake → List Probe
  | one p => [p]
  | many ps => ps

def perform (h : Harvest) : Intake → Harvest
  | one p => h.absorb p
  | many ps => h.absorbAll ps

def chains (xs : List Intake) : List (List Certificate) :=
  xs.flatMap fun x => x.probes.map Probe.chain

theorem perform_eq (h : Harvest) (x : Intake) : perform h x = h.absorbAll x.probes := by
  cases x <;> rfl

end Intake

def after (xs : List Intake) : Harvest :=
  xs.foldl Intake.perform {}

/-- What can be counted in a harvest. -/
structure Counts (h : Harvest) (chains : List (List Certificate)) : Prop where
  rootCount_eq : h.rootCount = (chains.filterMap List.getLast?).toFinset.card
  serverCount_eq : h.serverCount = (chains.filterMap List.head?).toFinset.card
  isEmpty_iff : h.isEmpty ↔ ∀ chain ∈ chains, chain = []

theorem foldl_perform (h : Harvest) (xs : List Intake)
    : xs.foldl Intake.perform h = h.absorbAll (xs.flatMap Intake.probes) := by
  induction xs generalizing h with
  | nil => rfl
  | cons x xs ih => rw [List.foldl_cons, ih, Intake.perform_eq, List.flatMap_cons, absorbAll_append]

theorem after_eq (xs : List Intake) : after xs = ofProbes (xs.flatMap Intake.probes) := by
  apply foldl_perform

theorem after_concat (xs : List Intake) (p : Probe) : after (xs ++ [.one p]) = (after xs).absorb p := by
  apply List.foldl_append

theorem gathers_after (xs : List Intake) : (after xs).Gathers (Intake.chains xs) := by
  rw [after_eq, Intake.chains, ← List.map_flatMap]
  apply gathers_ofProbes

theorem ordered_after (xs : List Intake) : (after xs).Ordered := by
  rw [after_eq]
  apply ordered_ofProbes

theorem length_eq_card {cs ds : List Certificate} (hnodup : cs.Nodup) (h : ∀ c, c ∈ cs ↔ c ∈ ds)
    : cs.length = ds.toFinset.card := by
  rw [← List.toFinset_card_of_nodup hnodup]
  congr 1
  ext c
  rw [List.mem_toFinset, List.mem_toFinset, h]

theorem eq_nil_iff_of_mem_iff {f : List Certificate → Option Certificate} {cs : List Certificate}
    {chains : List (List Certificate)} (h : ∀ c, c ∈ cs ↔ ∃ chain ∈ chains, f chain = some c)
    : cs = [] ↔ ∀ chain ∈ chains, f chain = none := by
  simp only [List.eq_nil_iff_forall_not_mem, h, Option.eq_none_iff_forall_ne_some]
  constructor
  . intro hnone chain hchain c hc
    exact hnone c ⟨chain, hchain, hc⟩
  . rintro hnone c ⟨chain, hchain, hc⟩
    exact hnone chain hchain c hc

theorem Gathers.isEmpty_iff {h : Harvest} {chains : List (List Certificate)} (hgathers : h.Gathers chains)
    : h.isEmpty ↔ ∀ chain ∈ chains, chain = [] := by
  unfold isEmpty
  rw [Bool.and_eq_true, List.isEmpty_iff, List.isEmpty_iff, eq_nil_iff_of_mem_iff hgathers.mem_roots_iff,
    eq_nil_iff_of_mem_iff hgathers.mem_servers_iff]
  simp only [List.getLast?_eq_none_iff, List.head?_eq_none_iff, and_self]

theorem Gathers.counts {h : Harvest} {chains : List (List Certificate)} (hgathers : h.Gathers chains)
    : h.Counts chains := by
  constructor
  case rootCount_eq =>
    apply length_eq_card hgathers.nodup_roots
    intro c
    rw [hgathers.mem_roots_iff, List.mem_filterMap]
  case serverCount_eq =>
    apply length_eq_card hgathers.nodup_servers
    intro c
    rw [hgathers.mem_servers_iff, List.mem_filterMap]
  case isEmpty_iff => exact hgathers.isEmpty_iff

theorem exists_end_congr {f : List Certificate → Option Certificate} (hf : f [] = none)
    {chains others : List (List Certificate)} (h : ∀ chain ≠ [], chain ∈ chains ↔ chain ∈ others) (c : Certificate)
    : (∃ chain ∈ chains, f chain = some c) ↔ ∃ chain ∈ others, f chain = some c := by
  apply exists_congr
  intro chain
  apply and_congr_left
  intro hc
  apply h
  rintro rfl
  rw [hf] at hc
  cases hc

theorem Gathers.eq_of_mem_iff {h h' : Harvest} {chains others : List (List Certificate)} (hgathers : h.Gathers chains)
    (hordered : h.Ordered) (hgathers' : h'.Gathers others) (hordered' : h'.Ordered)
    (hmem : ∀ chain ≠ [], chain ∈ chains ↔ chain ∈ others)
    : h = h' := by
  apply eq_of_lists
  . apply Certificate.eq_of_ascending hordered.roots hordered'.roots
    intro c
    rw [hgathers.mem_roots_iff, hgathers'.mem_roots_iff]
    exact exists_end_congr rfl hmem c
  . apply Certificate.eq_of_ascending hordered.servers hordered'.servers
    intro c
    rw [hgathers.mem_servers_iff, hgathers'.mem_servers_iff]
    exact exists_end_congr rfl hmem c

theorem after_congr {xs ys : List Intake}
    (h : ∀ chain ≠ [], chain ∈ Intake.chains xs ↔ chain ∈ Intake.chains ys)
    : after xs = after ys :=
  (gathers_after xs).eq_of_mem_iff (ordered_after xs) (gathers_after ys) (ordered_after ys) h

theorem absorb_after {xs : List Intake} {p : Probe} (h : p.chain ∈ Intake.chains xs)
    : (after xs).absorb p = after xs := by
  rw [← after_concat]
  apply after_congr
  intro chain _
  have happend : Intake.chains (xs ++ [.one p]) = Intake.chains xs ++ [p.chain] := by
    unfold Intake.chains
    rw [List.flatMap_append]
    rfl
  rw [happend, List.mem_append, List.mem_singleton, or_iff_left_iff_imp]
  rintro rfl
  exact h

/-- What a harvest is after any intakes. Order, grouping and repetition make no difference. -/
theorem collects_after (xs : List Intake)
    : let h := after xs
      let chains := Intake.chains xs
      h.Gathers chains
        ∧ h.Ordered
        ∧ h.Counts chains
        ∧ (∀ ys, (∀ chain ≠ [], chain ∈ chains ↔ chain ∈ Intake.chains ys) → after ys = h)
        ∧ (∀ p : Probe, p.chain ∈ chains → h.absorb p = h) := by
  intro h chains
  have hgathers : h.Gathers chains := gathers_after xs
  refine ⟨hgathers, ordered_after xs, hgathers.counts, ?_, ?_⟩
  . intro ys hmem
    exact (after_congr hmem).symm
  . intro p hp
    exact absorb_after hp

end PodProbe.Harvest
