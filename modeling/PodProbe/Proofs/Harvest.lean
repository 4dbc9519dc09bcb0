import Mathlib.Data.List.Basic
import PodProbe.Harvest

/-!
This module contains what is harvested from any number of probes: the ends of their chains, each of them once.
-/

namespace PodProbe

namespace Certificate

def insertAll (cs ds : List Certificate) : List Certificate :=
  cs.foldl (fun ds c => c.insert ds) ds

theorem mem_insertAll {cs ds : List Certificate} {d : Certificate} : d ∈ insertAll cs ds ↔ d ∈ cs ∨ d ∈ ds := by
  induction cs generalizing ds with
  | nil => simp [insertAll]
  | cons c cs ih =>
    change d ∈ insertAll cs (c.insert ds) ↔ _
    rw [ih, mem_insert, List.mem_cons, or_left_comm, or_assoc]

theorem ascending_insertAll (cs : List Certificate) {ds : List Certificate} (h : Ascending ds)
    : Ascending (insertAll cs ds) := by
  induction cs generalizing ds with
  | nil => exact h
  | cons c cs ih =>
    apply ih
    apply ascending_insert
    exact h

theorem nodup_insertAll (cs : List Certificate) : (insertAll cs []).Nodup := by
  apply nodup_of_ascending
  apply ascending_insertAll
  exact List.Pairwise.nil

theorem eq_of_ascending {cs ds : List Certificate} (hcs : Ascending cs) (hds : Ascending ds)
    (h : ∀ c, c ∈ cs ↔ c ∈ ds)
    : cs = ds := by
  have hperm : cs.Perm ds := (List.perm_ext_iff_of_nodup (nodup_of_ascending hcs) (nodup_of_ascending hds)).2 h
  apply hperm.eq_of_pairwise _ hcs hds
  intro c d _ _ hlt hgt
  exact absurd hgt (List.lt_asymm hlt)

theorem insertAll_perm {cs cs' ds : List Certificate} (hds : Ascending ds) (h : cs.Perm cs')
    : insertAll cs ds = insertAll cs' ds := by
  apply eq_of_ascending (ascending_insertAll cs hds) (ascending_insertAll cs' hds)
  intro c
  rw [mem_insertAll, mem_insertAll, h.mem_iff]

end Certificate

namespace Harvest

theorem absorbAll_append (h : Harvest) (ps qs : List Probe)
    : h.absorbAll (ps ++ qs) = (h.absorbAll ps).absorbAll qs := by
  apply List.foldl_append

theorem absorbAll_congr (h : Harvest) {ps qs : List Probe} (hchain : ps.map Probe.chain = qs.map Probe.chain)
    : h.absorbAll ps = h.absorbAll qs := by
  have hfold (ps : List Probe) : h.absorbAll ps = (ps.map Probe.chain).foldl absorbChain h := by
    rw [List.foldl_map]
    rfl
  rw [hfold, hfold, hchain]

theorem roots_absorbAll (h : Harvest) (ps : List Probe)
    : (h.absorbAll ps).roots = Certificate.insertAll (ps.filterMap Probe.rootCertificate?) h.roots := by
  induction ps generalizing h with
  | nil => rfl
  | cons p ps ih =>
    change ((h.absorb p).absorbAll ps).roots = _
    rw [ih, List.filterMap_cons]
    unfold absorb absorbChain Probe.rootCertificate?
    cases p.chain.getLast? <;> rfl

theorem servers_absorbAll (h : Harvest) (ps : List Probe)
    : (h.absorbAll ps).servers = Certificate.insertAll (ps.filterMap Probe.serverCertificate?) h.servers := by
  induction ps generalizing h with
  | nil => rfl
  | cons p ps ih =>
    change ((h.absorb p).absorbAll ps).servers = _
    rw [ih, List.filterMap_cons]
    unfold absorb absorbChain Probe.serverCertificate?
    cases p.chain.head? <;> rfl

/-- Whether a harvest has the ends of chains, all of them and each of them once. -/
structure Gathers (h : Harvest) (chains : List (List Certificate)) : Prop where
  mem_roots_iff : ∀ c, c ∈ h.roots ↔ ∃ chain ∈ chains, chain.getLast? = some c
  mem_servers_iff : ∀ c, c ∈ h.servers ↔ ∃ chain ∈ chains, chain.head? = some c
  nodup_roots : h.roots.Nodup
  nodup_servers : h.servers.Nodup

theorem gathers_ofProbes (ps : List Probe) : (ofProbes ps).Gathers (ps.map Probe.chain) := by
  unfold ofProbes
  constructor
  . intro c
    rw [roots_absorbAll, Certificate.mem_insertAll, List.mem_filterMap]
    simp [Probe.rootCertificate?]
  . intro c
    rw [servers_absorbAll, Certificate.mem_insertAll, List.mem_filterMap]
    simp [Probe.serverCertificate?]
  . rw [roots_absorbAll]
    apply Certificate.nodup_insertAll
  . rw [servers_absorbAll]
    apply Certificate.nodup_insertAll

/-- Whether both lists of a harvest are in the order of the bytes of their certificates. -/
structure Ordered (h : Harvest) : Prop where
  roots : Certificate.Ascending h.roots
  servers : Certificate.Ascending h.servers

theorem ordered_ofProbes (ps : List Probe) : (ofProbes ps).Ordered := by
  unfold ofProbes
  constructor
  . rw [roots_absorbAll]
    apply Certificate.ascending_insertAll
    exact List.Pairwise.nil
  . rw [servers_absorbAll]
    apply Certificate.ascending_insertAll
    exact List.Pairwise.nil

theorem eq_of_lists {h h' : Harvest} (hroots : h.roots = h'.roots) (hservers : h.servers = h'.servers) : h = h' := by
  rcases h with ⟨roots, servers⟩
  subst hroots
  subst hservers
  rfl

theorem Ordered.absorbAll_perm {h : Harvest} (hordered : h.Ordered) {ps qs : List Probe} (hperm : ps.Perm qs)
    : h.absorbAll ps = h.absorbAll qs := by
  apply eq_of_lists
  . rw [roots_absorbAll, roots_absorbAll]
    apply Certificate.insertAll_perm hordered.roots
    exact hperm.filterMap _
  . rw [servers_absorbAll, servers_absorbAll]
    apply Certificate.insertAll_perm hordered.servers
    exact hperm.filterMap _

end Harvest

end PodProbe
